import Mathlib.Data.List.Dedup
import Mathlib.Data.List.Nodup
import XinghaiApi.Relay.Common.OverridePath

/-!
# Deleting at paths with wildcards

A segment `*` of a path stands for every member or element. The paths that a path stands for are
collected from the document first, in the order of the keys and the indices, and then the values at
them are deleted one after the other. An element that is deleted moves the later ones of its array,
while the later paths still have their old indices. So every second element is left if the
wildcard in the end of the path meets an array. Keys are put into the paths as they are, so that one
with a dot is read as two parts. Everything else is deleted as it should be.
-/

namespace XinghaiApi

open Text Ip Json List

/-! ### Collecting the paths -/

/-- A member of a decoded object: the last one of its key. -/
def decodedMember (members : List (String × Json)) (key : String) : Option Json :=
  members.reverse.lookup key

def sortedKeys (members : List (String × Json)) : List String :=
  (members.map Prod.fst).dedup.mergeSort (· ≤ ·)

/-- The parts that a segment stands for at a value, with the values that they lead to. The last
segment is taken for a member whether there is one or not. -/
def stepsOf (segment : String) (isLast : Bool) (node : Json) : List (String × Json) :=
  if segment = "" then []
  else
    match node with
    | .obj members =>
      if segment = "*" then
        (sortedKeys members).map fun key => (key, (decodedMember members key).getD .null)
      else if isLast then [(segment, .null)]
      else ((decodedMember members segment).map (segment, ·)).toList
    | .arr items   =>
      if segment = "*" then items.zipIdx.map fun item => (item.2.repr, item.1)
      else
        match atoi segment with
        | some index =>
          if 0 ≤ index then (items[index.toNat]?.map (segment, ·)).toList else []
        | none       => []
    | _            => []

def collectWildcardPaths (node : Json) : List String → List String → List String
  | [], start              => [join "." start]
  | segment :: rest, start =>
    (stepsOf (trimSpace segment) (rest = []) node).flatMap fun step =>
      collectWildcardPaths step.2 rest (start ++ [step.1])

def expandWildcardPaths (data : Json) (path : String) : List String :=
  (collectWildcardPaths data (split '.' path) []).eraseDups

def resolveOperationPaths (data : Json) (path : String) : List String :=
  if Text.contains path "*" then expandWildcardPaths data path else [path]

/-! ### Deleting -/

def deleteValue (lib : PathLib) (data : Json) (path : String) : Except String Json :=
  if trimSpace path = "" then .ok data else lib.delete data path

/-- An operation of the mode `delete`. -/
def deleteOperation (lib : PathLib) (data : Json) (path : String) : Except String Json :=
  ((resolveOperationPaths data (processNegativeIndex lib data path)).foldlM
    (deleteValue lib) data).mapError ("operation delete failed: " ++ ·)

/-! ### What is to be deleted -/

/-- The segments of a path, without the space around them. -/
def segmentsOf (path : String) : List String := (split '.' path).map trimSpace

/-- A segment that is blank names nothing. -/
def MatchesKey (segment key : String) : Prop := segment = "*" ∨ segment ≠ "" ∧ segment = key

def MatchesIndex (segment : String) (i : ℕ) : Prop := segment = "*" ∨ index? segment = some i

instance (segment key : String) : Decidable (MatchesKey segment key) :=
  inferInstanceAs (Decidable (_ ∨ _))

instance (segment : String) (i : ℕ) : Decidable (MatchesIndex segment i) :=
  inferInstanceAs (Decidable (_ ∨ _))

/-- The document without the values that the path matches. -/
def removeMatched : List String → Json → Json
  | [], node                      => node
  | segment :: rest, .obj members => .obj <|
    if rest = [] then members.filter fun m => ¬MatchesKey segment m.1
    else members.map fun m =>
      if MatchesKey segment m.1 then (m.1, removeMatched rest m.2) else m
  | segment :: rest, .arr items   => .arr <|
    if rest = [] then (items.zipIdx.filter fun item => ¬MatchesIndex segment item.2).map Prod.fst
    else items.mapIdx fun i item =>
      if MatchesIndex segment i then removeMatched rest item else item
  | _, node                       => node

/-- Along the path the keys of each object are different, and arrays fit into memory. -/
def DistinctAlong : List String → Json → Prop
  | [], _                         => True
  | segment :: rest, .obj members =>
    DistinctKeys members ∧ ∀ m ∈ members, MatchesKey segment m.1 → DistinctAlong rest m.2
  | segment :: rest, .arr items   =>
    items.length ≤ 2 ^ 63 ∧
      ∀ i, (h : i < items.length) → MatchesIndex segment i → DistinctAlong rest items[i]
  | _, _                          => True

/-- A wildcard in the end of the path meets no array with two elements. -/
def NoArrayCleared : List String → Json → Prop
  | [], _                         => True
  | segment :: rest, .obj members =>
    ∀ m ∈ members, MatchesKey segment m.1 → NoArrayCleared rest m.2
  | segment :: rest, .arr items   =>
    (segment = "*" → rest = [] → items.length ≤ 1) ∧
      ∀ i, (h : i < items.length) → MatchesIndex segment i → NoArrayCleared rest items[i]
  | _, _                          => True

instance decidableDistinctAlong :
    (segments : List String) → (node : Json) → Decidable (DistinctAlong segments node)
  | [], _                         => isTrue trivial
  | segment :: rest, .obj members =>
    have := decidableDistinctAlong rest
    inferInstanceAs (Decidable
      (DistinctKeys members ∧ ∀ m ∈ members, MatchesKey segment m.1 → DistinctAlong rest m.2))
  | segment :: rest, .arr items   =>
    have := decidableDistinctAlong rest
    inferInstanceAs (Decidable (items.length ≤ 2 ^ 63 ∧
      ∀ i, (h : i < items.length) → MatchesIndex segment i → DistinctAlong rest items[i]))
  | _ :: _, .null                 => isTrue trivial
  | _ :: _, .bool _               => isTrue trivial
  | _ :: _, .num _                => isTrue trivial
  | _ :: _, .str _                => isTrue trivial

instance decidableNoArrayCleared :
    (segments : List String) → (node : Json) → Decidable (NoArrayCleared segments node)
  | [], _                         => isTrue trivial
  | segment :: rest, .obj members =>
    have := decidableNoArrayCleared rest
    inferInstanceAs (Decidable (∀ m ∈ members, MatchesKey segment m.1 → NoArrayCleared rest m.2))
  | segment :: rest, .arr items   =>
    have := decidableNoArrayCleared rest
    inferInstanceAs (Decidable ((segment = "*" → rest = [] → items.length ≤ 1) ∧
      ∀ i, (h : i < items.length) → MatchesIndex segment i → NoArrayCleared rest items[i]))
  | _ :: _, .null                 => isTrue trivial
  | _ :: _, .bool _               => isTrue trivial
  | _ :: _, .num _                => isTrue trivial
  | _ :: _, .str _                => isTrue trivial

/-! ### The collected paths -/

variable {segments parts : List String}

/-- The paths that segments stand for, as lists of parts. -/
def matchedPaths : List String → Json → List (List String)
  | [], _                 => [[]]
  | segment :: rest, node =>
    (stepsOf segment (rest = []) node).flatMap fun step =>
      (matchedPaths rest step.2).map (step.1 :: ·)

lemma collectWildcardPaths_eq (node : Json) (segments start : List String) :
    collectWildcardPaths node segments start =
      (matchedPaths (segments.map trimSpace) node).map fun parts => join "." (start ++ parts) := by
  induction segments generalizing node start with
  | nil => simp [collectWildcardPaths, matchedPaths]
  | cons segment rest ih =>
    simp [collectWildcardPaths, matchedPaths, ih, map_flatMap, Function.comp_def]

lemma ne_nil_of_mem_matchedPaths (hne : segments ≠ []) {node : Json}
    (h : parts ∈ matchedPaths segments node) : parts ≠ [] := by
  obtain ⟨segment, rest, rfl⟩ := exists_cons_of_ne_nil hne
  obtain ⟨step, -, hparts⟩ := mem_flatMap.mp h
  obtain ⟨tail, -, rfl⟩ := mem_map.mp hparts
  simp

lemma mem_sortedKeys {members : List (String × Json)} {key : String} :
    key ∈ sortedKeys members ↔ ∃ m ∈ members, m.1 = key := by
  simp [sortedKeys]

lemma sortedKeys_nodup (members : List (String × Json)) : (sortedKeys members).Nodup :=
  (mergeSort_perm _ _).nodup_iff.mpr (nodup_dedup _)

/-- The parts that a segment stands for are different. -/
lemma stepsOf_nodup (segment : String) (isLast : Bool) (node : Json) :
    ((stepsOf segment isLast node).map Prod.fst).Nodup := by
  have hsingle : ∀ child : Option Json, (((child.map (segment, ·)).toList).map Prod.fst).Nodup := by
    intro child
    cases child <;> simp
  cases node with
  | obj members =>
    simp only [stepsOf]
    split_ifs
    · exact nodup_nil
    · simpa [Function.comp_def] using sortedKeys_nodup members
    · simp
    · exact hsingle _
  | arr items =>
    simp only [stepsOf]
    split_ifs
    · exact nodup_nil
    · have hinj : Function.Injective Nat.repr := fun i j hij => by
        simpa using congrArg index? hij
      have hparts : (items.zipIdx.map fun item => (item.2.repr, item.1)).map Prod.fst =
          (items.zipIdx.map Prod.snd).map Nat.repr := by
        rw [map_map, map_map]
        rfl
      rw [hparts, zipIdx_map_snd]
      exact (nodup_range' 1).map hinj
    · split
      · split_ifs
        · exact hsingle _
        · exact nodup_nil
      · exact nodup_nil
  | _ => simp [stepsOf]

lemma matchedPaths_nodup (segments : List String) (node : Json) :
    (matchedPaths segments node).Nodup := by
  induction segments generalizing node with
  | nil => simp [matchedPaths]
  | cons segment rest ih =>
    have hsteps := pairwise_map.mp (stepsOf_nodup segment (rest = []) node)
    refine nodup_flatMap.mpr ⟨fun step _ => ?_, hsteps.imp ?_⟩
    · exact (ih step.2).map fun parts parts' h => (List.cons.inj h).2
    · intro step step' hne parts hparts hparts'
      obtain ⟨tail, -, rfl⟩ := mem_map.mp hparts
      obtain ⟨tail', -, heq⟩ := mem_map.mp hparts'
      exact hne (List.cons.inj heq).1.symm

/-! ### What is deleted -/

variable {rest : List String}

lemma eraseAll_matchedPaths_last (segment : String) (node : Json) :
    eraseAll (matchedPaths [segment] node) node =
      (stepsOf segment true node).foldl
        (fun (node : Json) step => node.eraseChild step.1) node := by
  simp only [matchedPaths, decide_true, eraseAll_flatMap]
  rfl

lemma eraseAll_matchedPaths_cons (segment : String) (hrest : rest ≠ []) (node : Json) :
    eraseAll (matchedPaths (segment :: rest) node) node =
      (stepsOf segment false node).foldl
        (fun (node : Json) step => node.modifyChild step.1 (eraseAll (matchedPaths rest step.2)))
        node := by
  rw [matchedPaths, eraseAll_flatMap, decide_eq_false hrest]
  congr 1
  funext current step
  exact eraseAll_map_cons step.1 (fun parts => ne_nil_of_mem_matchedPaths hrest) current

section

variable {members : List (String × Json)}

lemma decodedMember_of_mem (h : DistinctKeys members) {m : String × Json} (hm : m ∈ members) :
    decodedMember members m.1 = some m.2 := by
  have hreverse : DistinctKeys members.reverse := by
    simpa [DistinctKeys, map_reverse] using h
  exact hreverse.lookup_eq (mem_reverse.mpr hm)

lemma decodedMember_eq_none_iff {key : String} :
    decodedMember members key = none ↔ ∀ m ∈ members, m.1 ≠ key := by
  simp only [decodedMember, lookup_eq_none_iff, mem_reverse, bne_iff_ne, ne_comm]

lemma eraseAll_obj_last (h : DistinctKeys members) (segment : String) :
    eraseAll (matchedPaths [segment] (.obj members)) (.obj members) =
      removeMatched [segment] (.obj members) := by
  rw [eraseAll_matchedPaths_last, removeMatched, if_pos rfl, stepsOf]
  by_cases hblank : segment = ""
  · simp [hblank, MatchesKey]
  rw [if_neg hblank]
  by_cases hwild : segment = "*"
  · have hall : ∀ m ∈ members, m.1 ∈ sortedKeys members := fun m hm =>
      mem_sortedKeys.mpr ⟨m, hm, rfl⟩
    have hnone : members.filter (·.1 ∉ sortedKeys members) = [] :=
      filter_eq_nil_iff.mpr fun m hm => by simpa using hall m hm
    rw [if_pos hwild, foldl_map, foldl_eraseMember _ h, hnone]
    simp [MatchesKey, hwild]
  · rw [if_neg hwild, if_pos rfl, foldl_cons, foldl_nil, eraseChild, eraseP_eq_filter h]
    simp [MatchesKey, hwild, hblank, eq_comm]

lemma eraseAll_obj_cons (h : DistinctKeys members) (segment : String) (hrest : rest ≠ []) :
    eraseAll (matchedPaths (segment :: rest) (.obj members)) (.obj members) =
      .obj (members.map fun m => if MatchesKey segment m.1 then
        (m.1, eraseAll (matchedPaths rest m.2) m.2) else m) := by
  rw [eraseAll_matchedPaths_cons segment hrest, stepsOf]
  by_cases hblank : segment = ""
  · simp [hblank, MatchesKey]
  rw [if_neg hblank]
  by_cases hwild : segment = "*"
  · rw [if_pos hwild, foldl_map]
    refine (foldl_modifyMember (fun key => eraseAll (matchedPaths rest
      ((decodedMember members key).getD .null))) (sortedKeys_nodup members) h).trans ?_
    congr 1
    refine map_congr_left fun m hm => ?_
    have hmatch : MatchesKey segment m.1 := Or.inl hwild
    rw [if_pos (mem_sortedKeys.mpr ⟨m, hm, rfl⟩), if_pos hmatch, decodedMember_of_mem h hm,
      Option.getD_some]
  · have hmatch : ∀ key, MatchesKey segment key ↔ key = segment := fun key => by
      simp [MatchesKey, hwild, hblank, eq_comm]
    simp only [if_neg hwild, Bool.false_eq_true, if_false, hmatch]
    cases hmember : decodedMember members segment with
    | none =>
      have hother : ∀ m ∈ members, (if m.1 = segment then
          (m.1, eraseAll (matchedPaths rest m.2) m.2) else m) = m := fun m hm =>
        if_neg (decodedMember_eq_none_iff.mp hmember m hm)
      simp [map_congr_left hother]
    | some child =>
      simp only [Option.map_some, Option.toList_some, foldl_cons, foldl_nil, modifyChild,
        modifyMember_eq_map h]
      congr 1
      refine map_congr_left fun m hm => ?_
      by_cases hkey : m.1 = segment
      · have hchild : m.2 = child := by
          rw [← hkey, decodedMember_of_mem h hm] at hmember
          exact Option.some.inj hmember
        rw [if_pos hkey, if_pos hkey, hchild]
      · rw [if_neg hkey, if_neg hkey]

end

section

variable {items : List Json} {segment : String}

lemma atoi_of_index? {i : ℕ} (h : index? segment = some i) :
    atoi segment = if i < 2 ^ 63 then some (i : ℤ) else none := by
  have hdigit := isDigit_of_readNumber h
  rw [index?] at h
  have hsign : ∀ c ∈ ['-', '+'], ∀ rest, segment.toList ≠ c :: rest := by
    intro c hc rest hlist
    have hsign : ∀ c ∈ ['-', '+'], c.isDigit = false := by decide
    have := hdigit c (hlist ▸ mem_cons_self)
    rw [hsign c hc] at this
    exact absurd this (by decide)
  rw [atoi.eq_def]
  split
  next digits hlist => exact absurd hlist (hsign '-' (by decide) digits)
  next digits hlist => exact absurd hlist (hsign '+' (by decide) digits)
  next =>
    rw [h, Option.filter_some]
    by_cases hlt : i < 2 ^ 63
    · rw [if_pos (by simpa using hlt), if_pos hlt]
      rfl
    · rw [if_neg (by simpa using hlt), if_neg hlt]
      rfl

/-- A segment that is an index stands for the element, if there is one. -/
lemma stepsOf_index {i : ℕ} (h : index? segment = some i) (isLast : Bool)
    (hlength : items.length ≤ 2 ^ 63) :
    stepsOf segment isLast (.arr items) = (items[i]?.map (segment, ·)).toList := by
  have hother : ∀ {other : String}, index? other = none → segment ≠ other := by
    rintro other hnone rfl
    exact absurd h (by simp [hnone])
  simp only [stepsOf, if_neg (hother (by decide) : segment ≠ ""),
    if_neg (hother (by decide) : segment ≠ "*"), atoi_of_index? h]
  by_cases hlt : i < 2 ^ 63
  · rw [if_pos hlt]
    simp
  · have hnone : items[i]? = none := List.getElem?_eq_none (by omega)
    rw [if_neg hlt, hnone]
    rfl

/-- The parts that a segment other than the wildcard stands for are the segment itself. -/
lemma fst_of_mem_stepsOf (hwild : segment ≠ "*") {isLast : Bool} {step : String × Json}
    (h : step ∈ stepsOf segment isLast (.arr items)) : step.1 = segment := by
  simp only [stepsOf, if_neg hwild] at h
  split_ifs at h with hblank
  · simp at h
  · split at h
    · split_ifs at h
      · obtain ⟨child, -, rfl⟩ := by simpa using h
        rfl
      · simp at h
    · simp at h

/-- A segment that is no index changes nothing in an array. -/
lemma foldl_stepsOf_of_index?_eq_none (hwild : segment ≠ "*") (h : index? segment = none)
    (isLast : Bool) (change : String × Json → Json → Json)
    (hchange : ∀ step : String × Json, index? step.1 = none →
      change step (.arr items) = .arr items) :
    (stepsOf segment isLast (.arr items)).foldl (fun node step => change step node) (.arr items) =
      .arr items := by
  have hsteps : ∀ step ∈ stepsOf segment isLast (.arr items), index? step.1 = none :=
    fun step hstep => by rw [fst_of_mem_stepsOf hwild hstep, h]
  generalize stepsOf segment isLast (.arr items) = steps at hsteps
  induction steps with
  | nil => rfl
  | cons step steps ih =>
    obtain ⟨hstep, hsteps⟩ := forall_mem_cons.mp hsteps
    rw [foldl_cons, hchange step hstep, ih hsteps]

lemma zipIdx_filter_ne (items : List Json) (i k : ℕ) :
    ((items.zipIdx k).filter fun item => ¬i + k = item.2).map Prod.fst = items.eraseIdx i := by
  induction items generalizing i k with
  | nil => rfl
  | cons item items ih =>
    cases i with
    | zero =>
      have hall : (items.zipIdx (k + 1)).filter (fun item => ¬0 + k = item.2) =
          items.zipIdx (k + 1) := by
        refine filter_eq_self.mpr fun x hx => ?_
        have := (mem_zipIdx hx).1
        simp only [decide_eq_true_eq]
        omega
      rw [zipIdx_cons, filter_cons_of_neg (by simp), hall, zipIdx_map_fst, eraseIdx_cons_zero]
    | succ i =>
      have hne : ¬i + (k + 1) = k := by omega
      rw [Nat.add_assoc i 1 k, Nat.add_comm 1 k, zipIdx_cons,
        filter_cons_of_pos (by simpa using hne), map_cons, eraseIdx_cons_succ, ih]

/-- The wildcard in the end erases every index in turn. -/
lemma eraseAll_arr_wild (items : List Json) :
    eraseAll (matchedPaths ["*"] (.arr items)) (.arr items) =
      .arr ((List.range items.length).foldl List.eraseIdx items) := by
  have hindices : ∀ (is : List ℕ) (items : List Json),
      is.foldl (fun (node : Json) i => node.eraseChild i.repr) (.arr items) =
        .arr (is.foldl List.eraseIdx items) := by
    intro is
    induction is with
    | nil => exact fun items => rfl
    | cons i is ih =>
      intro items
      rw [foldl_cons, foldl_cons, ← ih]
      simp [eraseChild]
  have hrange : List.range items.length = items.zipIdx.map Prod.snd := by
    rw [zipIdx_map_snd, range_eq_range']
  rw [eraseAll_matchedPaths_last, hrange, ← hindices, foldl_map]
  simp [stepsOf, foldl_map]

lemma eraseAll_arr_last (hwild : segment ≠ "*") (hlength : items.length ≤ 2 ^ 63) :
    eraseAll (matchedPaths [segment] (.arr items)) (.arr items) =
      removeMatched [segment] (.arr items) := by
  have hmatch : ∀ i, MatchesIndex segment i ↔ index? segment = some i := fun i => by
    simp [MatchesIndex, hwild]
  rw [eraseAll_matchedPaths_last, removeMatched, if_pos rfl]
  simp only [hmatch]
  cases hindex : index? segment with
  | none =>
    rw [foldl_stepsOf_of_index?_eq_none hwild hindex true
      (fun step node => node.eraseChild step.1) fun step hstep => by simp [eraseChild, hstep]]
    simp
  | some i =>
    have hspec := zipIdx_filter_ne items i 0
    rw [stepsOf_index hindex true hlength]
    simp only [Nat.add_zero, Option.some.injEq] at hspec ⊢
    rw [hspec]
    by_cases hlt : i < items.length
    · simp [hlt, eraseChild, hindex]
    · rw [List.getElem?_eq_none (by omega), eraseIdx_of_length_le (by omega)]
      rfl

lemma eraseAll_arr_cons (segment : String) (hrest : rest ≠ []) (hlength : items.length ≤ 2 ^ 63) :
    eraseAll (matchedPaths (segment :: rest) (.arr items)) (.arr items) =
      .arr (items.mapIdx fun i item =>
        if MatchesIndex segment i then eraseAll (matchedPaths rest item) item else item) := by
  rw [eraseAll_matchedPaths_cons segment hrest]
  by_cases hwild : segment = "*"
  · have hsteps : ∀ (steps : List (Json × ℕ)) (items : List Json),
        steps.foldl (fun (node : Json) step =>
            node.modifyChild step.2.repr (eraseAll (matchedPaths rest step.1))) (.arr items) =
          .arr (steps.foldl
            (fun items step => items.modify step.2 (eraseAll (matchedPaths rest step.1)))
            items) := by
      intro steps
      induction steps with
      | nil => exact fun items => rfl
      | cons step steps ih =>
        intro items
        rw [foldl_cons, foldl_cons, ← ih]
        simp [modifyChild]
    have hmap := foldl_modify_zipIdx (fun item => eraseAll (matchedPaths rest item)) [] items
    have hwildSteps : stepsOf segment false (.arr items) =
        items.zipIdx.map fun item => (item.2.repr, item.1) := by
      subst hwild
      rfl
    simp only [length_nil, nil_append] at hmap
    rw [hwildSteps, foldl_map, hsteps, hmap]
    congr 1
    refine ext_getElem (by simp) fun i _ _ => ?_
    simp [MatchesIndex, hwild]
  · have hmatch : ∀ i, MatchesIndex segment i ↔ index? segment = some i := fun i => by
      simp [MatchesIndex, hwild]
    simp only [hmatch]
    cases hindex : index? segment with
    | none =>
      rw [foldl_stepsOf_of_index?_eq_none hwild hindex false
        (fun step node => node.modifyChild step.1 (eraseAll (matchedPaths rest step.2)))
        fun step hstep => by simp [modifyChild, hstep]]
      congr 1
      exact ext_getElem (by simp) fun i _ _ => by simp
    | some i =>
      rw [stepsOf_index hindex false hlength]
      by_cases hlt : i < items.length
      · rw [List.getElem?_eq_getElem hlt]
        simp only [Option.map_some, Option.toList_some, foldl_cons, foldl_nil,
          modifyChild, hindex, Option.elim_some]
        congr 1
        refine ext_getElem (by simp) fun k _ _ => ?_
        by_cases hk : i = k
        · subst hk
          simp
        · simp [hk]
      · rw [List.getElem?_eq_none (by omega)]
        change Json.arr items = _
        congr 1
        refine ext_getElem (by simp) fun k hk _ => ?_
        have hne : i ≠ k := by
          rintro rfl
          exact hlt hk
        simp [hne]

end

/-- The deletions leave the document without the matched values if no array is cleared. -/
lemma eraseAll_matchedPaths {node : Json} (h : DistinctAlong segments node)
    (hcleared : NoArrayCleared segments node) (hne : segments ≠ []) :
    eraseAll (matchedPaths segments node) node = removeMatched segments node := by
  induction segments generalizing node with
  | nil => exact absurd rfl hne
  | cons segment rest ih =>
    cases node with
    | obj members =>
      obtain ⟨hdistinct, hrestDistinct⟩ := h
      by_cases hrest : rest = []
      · subst hrest
        exact eraseAll_obj_last hdistinct segment
      · rw [eraseAll_obj_cons hdistinct segment hrest, removeMatched, if_neg hrest,
          Json.obj.injEq, map_inj_left]
        intro m hm
        by_cases hmatch : MatchesKey segment m.1
        · rw [if_pos hmatch, if_pos hmatch,
            ih (hrestDistinct m hm hmatch) (hcleared m hm hmatch) hrest]
        · rw [if_neg hmatch, if_neg hmatch]
    | arr items =>
      obtain ⟨hlength, hrestDistinct⟩ := h
      obtain ⟨hshort, hrestCleared⟩ := hcleared
      by_cases hrest : rest = []
      · subst hrest
        by_cases hwild : segment = "*"
        · subst hwild
          have hspec : removeMatched ["*"] (.arr items) = .arr [] := by
            simp [removeMatched, MatchesIndex]
          rw [eraseAll_arr_wild, hspec, Json.arr.injEq]
          match items, hshort rfl rfl with
          | [], _  => rfl
          | [_], _ => rfl
        · exact eraseAll_arr_last hwild hlength
      · rw [eraseAll_arr_cons segment hrest hlength, removeMatched, if_neg hrest,
          Json.arr.injEq, mapIdx_eq_mapIdx_iff]
        intro i hi
        by_cases hmatch : MatchesIndex segment i
        · rw [if_pos hmatch, if_pos hmatch,
            ih (hrestDistinct i hi hmatch) (hrestCleared i hi hmatch) hrest]
        · rw [if_neg hmatch, if_neg hmatch]
    | _ => simp [matchedPaths, stepsOf, removeMatched]

/-! ### The operation -/

lemma mem_join {sep : String} {l : List String} {s : String} (hs : s ∈ l) {c : Char}
    (hc : c ∈ s.toList) : c ∈ (join sep l).toList := by
  induction l with
  | nil => simp at hs
  | cons t l ih =>
    cases l with
    | nil =>
      obtain rfl := mem_singleton.mp hs
      exact hc
    | cons u l =>
      rcases mem_cons.mp hs with rfl | hs
      · simp [join, hc]
      · simp [join, ih hs]

lemma contains_star_of_mem {path : String} (h : "*" ∈ segmentsOf path) :
    Text.contains path "*" = true := by
  obtain ⟨raw, hraw, htrim⟩ := mem_map.mp h
  have hchar : '*' ∈ (trimSpace raw).toList := by rw [htrim]; decide
  have hpath : join "." (split '.' path) = path := join_split '.' path
  have hmem : '*' ∈ (join "." (split '.' path)).toList :=
    mem_join hraw (mem_of_mem_trimSpace hchar)
  rw [hpath] at hmem
  obtain ⟨before, after, hsplit⟩ := append_of_mem hmem
  simp only [Text.contains, decide_eq_true_eq]
  exact ⟨before, after, by rw [hsplit]; simp⟩

lemma eraseDups_of_nodup {l : List String} (h : l.Nodup) : l.eraseDups = l := by
  induction l with
  | nil => rfl
  | cons s l ih =>
    obtain ⟨hs, hl⟩ := nodup_cons.mp h
    have hfilter : l.filter (fun t => !t == s) = l :=
      filter_eq_self.mpr fun t ht => by
        simpa using fun h : t = s => hs (h ▸ ht)
    rw [eraseDups_cons, hfilter, ih hl]

lemma trimSpace_join_ne (hne : parts ≠ []) (h : ∀ part ∈ parts, PlainPart part) :
    trimSpace (join "." parts) ≠ "" := by
  obtain ⟨part, hpart⟩ := exists_mem_of_ne_nil parts hne
  intro hblank
  exact (h part hpart).not_blank <| trimSpace_eq_empty_iff.mpr fun c hc =>
    trimSpace_eq_empty_iff.mp hblank c (mem_join hpart hc)

lemma foldlM_deleteValue (lib : PathLib) {paths : List (List String)}
    (hne : ∀ parts ∈ paths, parts ≠ [])
    (hplain : ∀ parts ∈ paths, ∀ part ∈ parts, PlainPart part ∧ part ≠ "-1") (doc : Json) :
    (paths.map (join ".")).foldlM (deleteValue lib) doc = .ok (eraseAll paths doc) := by
  induction paths generalizing doc with
  | nil => rfl
  | cons parts paths ih =>
    obtain ⟨hparts, hne⟩ := forall_mem_cons.mp hne
    obtain ⟨hplainParts, hplain⟩ := forall_mem_cons.mp hplain
    have hblank := trimSpace_join_ne hparts fun part hpart => (hplainParts part hpart).1
    have hdelete : deleteValue lib doc (join "." parts) = .ok (doc.erase parts) := by
      rw [deleteValue, if_neg hblank, lib.delete_join doc hparts hplainParts]
    rw [map_cons, foldlM_cons, hdelete]
    exact ih hne hplain (doc.erase parts)

lemma resolveOperationPaths_eq {path : String} (hwild : "*" ∈ segmentsOf path) {doc : Json}
    (hplain : ∀ parts ∈ matchedPaths (segmentsOf path) doc, ∀ part ∈ parts, PlainPart part) :
    resolveOperationPaths doc path = (matchedPaths (segmentsOf path) doc).map (join ".") := by
  have hne : segmentsOf path ≠ [] := ne_nil_of_mem hwild
  have hnodup : ((matchedPaths (segmentsOf path) doc).map (join ".")).Nodup := by
    refine (matchedPaths_nodup _ _).map_on fun parts hparts parts' hparts' h => ?_
    have hsplit := congrArg (split '.') h
    rwa [split_dot (ne_nil_of_mem_matchedPaths hne hparts) (hplain parts hparts),
      split_dot (ne_nil_of_mem_matchedPaths hne hparts') (hplain parts' hparts')] at hsplit
  rw [resolveOperationPaths, if_pos (contains_star_of_mem hwild), expandWildcardPaths,
    collectWildcardPaths_eq]
  exact eraseDups_of_nodup hnodup

/-- What a path matches can be deleted: a wildcard in its end meets no array with two elements, no
matched key needs to be escaped, and the keys along the path are different. -/
structure Deletable (segments : List String) (doc : Json) : Prop where
  cleared : NoArrayCleared segments doc
  plain : ∀ parts ∈ matchedPaths segments doc, ∀ part ∈ parts, PlainPart part ∧ part ≠ "-1"
  distinct : DistinctAlong segments doc

instance (segments : List String) (doc : Json) : Decidable (Deletable segments doc) :=
  decidable_of_iff (NoArrayCleared segments doc ∧ (∀ parts ∈ matchedPaths segments doc,
      ∀ part ∈ parts, PlainPart part ∧ part ≠ "-1") ∧ DistinctAlong segments doc)
    ⟨fun ⟨cleared, plain, distinct⟩ => ⟨cleared, plain, distinct⟩,
      fun h => ⟨h.cleared, h.plain, h.distinct⟩⟩

/-- Tools with and without examples. -/
def toolsDoc : Json :=
  .obj [("tools", .arr
    [.obj [("custom", .obj [("input_examples", .arr [.str "a"]), ("other", .bool true)])],
      .obj [("custom", .obj [("input_examples", .arr [.str "b"])])], .obj [("type", .str "noop")]])]

end XinghaiApi
