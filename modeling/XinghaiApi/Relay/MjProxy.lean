import Mathlib.Data.Int.Notation
import Mathlib.Tactic.Common

/-!
# Midjourney submissions

A submission is sent upstream, and a row is stored for it whatever the answer is. Whether it is paid
for is decided apart from the row: by the action and the code of the answer, in a function that runs
when the handler returns. The row records the price in both cases.
-/

namespace XinghaiApi

inductive MjAction where
  | imagine
  | describe
  | blend
  | upscale
  | variation
  | reRoll
  | inPaint
  | modal
  | zoom
  | customZoom
  | shorten
  | highVariation
  | lowVariation
  | pan
  | swapFace
  | upload
  | video
  | edits
  /-- whatever else a client has sent -/
  | other (name : String)
deriving DecidableEq

/-- The row of a task. -/
structure Midjourney where
  id : Int := 0
  code : Int
  userId : Int
  action : MjAction
  mjId : String
  prompt : String
  promptEn : String := ""
  description : String
  state : String := ""
  submitTime : Int
  startTime : Int := 0
  finishTime : Int := 0
  imageUrl : String := ""
  videoUrl : String := ""
  videoUrls : String := ""
  status : String := ""
  progress : String := "0%"
  failReason : String := ""
  channelId : Int
  quota : Int
  buttons : String := ""
  properties : String := ""
deriving DecidableEq

/-- Write the copy `t` where the row still has the status `fromStatus`, and tell whether it had. -/
def Midjourney.updateWithStatus (row : Midjourney) (fromStatus : String) (t : Midjourney) :
    Midjourney × Bool :=
  if row.status = fromStatus then (t, true) else (row, false)

/-- The properties of an answer, where both are texts. -/
structure MjProperties where
  imageUrl : String
  status : String
deriving DecidableEq

/-- The answer to a submission, with the status of the HTTP response. -/
structure MidjourneyResponseWithStatusCode where
  statusCode : Int := 200
  code : Int
  description : String := ""
  properties : Option MjProperties := none
  result : String := ""
deriving DecidableEq

inductive MjHandler where
  | submit
  | swapFace
deriving DecidableEq

/-- A submission that was sent upstream and answered. -/
structure MjSubmission where
  handler : MjHandler := .submit
  userId : Int := 1
  channelId : Int := 1
  action : MjAction
  prompt : String := ""
  /-- when the request came in and when the answer did, in milliseconds -/
  requestTime : Int := 0
  now : Int := 0
  /-- the price of the call -/
  quota : Int
  response : MidjourneyResponseWithStatusCode
deriving DecidableEq

/-- What a submission leaves behind: the row, and what the user has paid. -/
structure MjSubmitted where
  task : Midjourney
  charge : Int
deriving DecidableEq

/-- Whether the action is one that waits for a second step and costs nothing by itself. -/
def MjAction.isFree : MjAction → Bool
  | .inPaint | .customZoom => true
  | _ => false

/-- Whether a code says that the task was taken: submitted, existing or queued. -/
def isTakenCode (code : Int) : Bool :=
  code = 1 ∨ code = 21 ∨ code = 22

/-- What the answer that the task exists tells about it. -/
def takeExisting (now : Int) (properties : Option MjProperties) (t : Midjourney) : Midjourney :=
  match properties with
  | none   => t
  | some p =>
    if p.status = "SUCCESS" then
      { t with
        imageUrl := p.imageUrl, status := p.status, progress := "100%"
        startTime := now, finishTime := now }
    else { t with imageUrl := p.imageUrl, status := p.status }

/-- The code the handler goes on with: a task that exists and has succeeded counts as submitted. -/
def existingCode (response : MidjourneyResponseWithStatusCode) : Int :=
  match response.properties with
  | some p => if response.code = 21 ∧ p.status = "SUCCESS" then 1 else response.code
  | none   => response.code

def relayMidjourneySubmit (s : MjSubmission) : MjSubmitted :=
  let r := s.response
  let t : Midjourney :=
    { code := r.code, userId := s.userId, action := s.action, mjId := r.result, prompt := s.prompt
      description := r.description, submitTime := s.now, channelId := s.channelId
      quota := s.quota }
  let t := if isTakenCode r.code then t else { t with failReason := r.description }
  let t := if r.code = 21 then takeExisting s.now r.properties t else t
  let t :=
    if existingCode r = 1 ∧ s.action = .upload then
      { t with progress := "100%", status := "SUCCESS" }
    else t
  let consumeQuota := !s.action.isFree && isTakenCode r.code
  { task := t, charge := if consumeQuota ∧ r.statusCode = 200 then s.quota else 0 }

def relaySwapFace (s : MjSubmission) : MjSubmitted :=
  let r := s.response
  { task :=
      { code := r.code, userId := s.userId, action := .swapFace, mjId := r.result
        prompt := "InsightFace", description := r.description, submitTime := s.requestTime
        startTime := s.now, channelId := s.channelId, quota := s.quota }
    charge := if r.statusCode = 200 ∧ r.code = 1 then s.quota else 0 }

def MjSubmission.submitted (s : MjSubmission) : MjSubmitted :=
  match s.handler with
  | .submit   => relayMidjourneySubmit s
  | .swapFace => relaySwapFace s

/-! ### What a submission stores -/

@[simp] lemma takeExisting_quota (now : Int) (properties : Option MjProperties) (t : Midjourney) :
    (takeExisting now properties t).quota = t.quota := by
  rcases properties with _ | p
  · rfl
  · simp only [takeExisting]
    split_ifs <;> rfl

/-- The row records the price, whether or not it was paid. -/
lemma MjSubmission.submitted_quota (s : MjSubmission) : s.submitted.task.quota = s.quota := by
  cases hhandler : s.handler with
  | swapFace => simp [submitted, hhandler, relaySwapFace]
  | submit =>
    simp only [submitted, hhandler, relayMidjourneySubmit]
    split_ifs <;> simp

/-- A call is paid for where its answer arrives and takes the task, unless the action is a free
one. -/
def MjSubmission.IsPaid (s : MjSubmission) : Prop :=
  s.response.statusCode = 200 ∧
    match s.handler with
    | .submit   => s.action ≠ .inPaint ∧ s.action ≠ .customZoom ∧
        (s.response.code = 1 ∨ s.response.code = 21 ∨ s.response.code = 22)
    | .swapFace => s.response.code = 1

instance (s : MjSubmission) : Decidable s.IsPaid := by
  unfold MjSubmission.IsPaid
  cases s.handler <;> infer_instance

/-- The answer gives no id, or finishes the task: an upload that is taken, or a task that exists and
has ended. -/
def MjSubmission.IsFinished (s : MjSubmission) : Prop :=
  s.response.result = "" ∨ s.handler = .submit ∧
    (s.response.code = 1 ∧ s.action = .upload ∨
      s.response.code = 21 ∧
        ∃ p ∈ s.response.properties, p.status = "SUCCESS" ∨ p.status = "FAILURE")

instance (s : MjSubmission) : Decidable s.IsFinished :=
  inferInstanceAs (Decidable (_ ∨ _ ∧ (_ ∨ _ ∧ ∃ p ∈ s.response.properties, _)))

lemma MjAction.isFree_eq_false {action : MjAction} :
    action.isFree = false ↔ action ≠ .inPaint ∧ action ≠ .customZoom := by
  cases action <;> simp [isFree]

lemma MjSubmission.submitted_charge (s : MjSubmission) :
    s.submitted.charge = if s.IsPaid then s.quota else 0 := by
  cases hhandler : s.handler with
  | swapFace => simp [submitted, IsPaid, hhandler, relaySwapFace]
  | submit =>
    simp [submitted, IsPaid, hhandler, relayMidjourneySubmit, isTakenCode,
      MjAction.isFree_eq_false, and_assoc, and_left_comm, and_comm]

end XinghaiApi
