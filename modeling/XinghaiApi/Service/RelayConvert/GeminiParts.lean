import Mathlib.Data.List.Infix
import Mathlib.Tactic.Common
import XinghaiApi.Lib.Except
import XinghaiApi.Lib.Occurrence

/-!
# Markdown images in the text of a message

For Gemini the text of a message is cut at its markdown images with data URLs, and each of them
becomes a part with its data. What stands behind the last image becomes no part.
-/

namespace XinghaiApi

open Occurrence

structure MarkdownImage where
  textBefore : List Char
  label : List Char
  dataURL : List Char
  textAfter : List Char
deriving DecidableEq

/-- The first image of a text. -/
def markdownImage (text : List Char) : Option MarkdownImage := do
  let (textBefore, _) ← cut "![".toList text
  let (label, _) ← cut "](data:".toList (text.drop textBefore.length)
  let (dataURL, textAfter) ← cut [')'] (text.drop (textBefore.length + (label.length + 2)))
  return ⟨textBefore, label, dataURL, textAfter⟩

def MarkdownImage.markdown (image : MarkdownImage) : List Char :=
  image.label ++ "](".toList ++ image.dataURL ++ [')']

inductive GeminiPart where
  | text (content : List Char)
  /-- the MIME type and the data of an image -/
  | inlineData (image : MarkdownImage) (data : String × String)
deriving DecidableEq

/-- The stretch of the text that the part was made from. -/
def GeminiPart.source : GeminiPart → List Char
  | .text content       => content
  | .inlineData image _ => image.markdown

/-- The markers of the image are looked for one behind the other. -/
lemma markdownImage_eq_some_iff {text : List Char} {image : MarkdownImage} :
    markdownImage text = some image ↔ ∃ back rest,
      cut "![".toList text = some (image.textBefore, back) ∧
      cut "](data:".toList ("![".toList ++ back) = some (image.label, rest) ∧
      cut [')'] ("data:".toList ++ rest) = some (image.dataURL, image.textAfter) := by
  have hopen : ∀ {before back}, cut "![".toList text = some (before, back) →
      text.drop before.length = "![".toList ++ back := by
    intro before back h
    simp [eq_of_cut h]
  have hlink : ∀ {label rest back : List Char}, cut "](data:".toList back = some (label, rest) →
      (back.drop label.length).drop 2 = "data:".toList ++ rest := by
    intro label rest back h
    simp [eq_of_cut h]
  simp only [markdownImage, Option.bind_eq_bind, Option.bind_eq_some_iff, Prod.exists,
    Option.pure_def, Option.some.injEq, ← List.drop_drop]
  constructor
  · rintro ⟨before, back, hbefore, label, rest, hlabel, url, after, hurl, rfl⟩
    rw [hopen hbefore] at hlabel hurl
    rw [hlink hlabel] at hurl
    exact ⟨back, rest, hbefore, hlabel, hurl⟩
  · rintro ⟨back, rest, hbefore, hlabel, hurl⟩
    refine ⟨_, back, hbefore, image.label, rest, ?_, image.dataURL, image.textAfter, ?_, rfl⟩
    · rwa [hopen hbefore]
    · rwa [hopen hbefore, hlink hlabel]

lemma eq_of_markdownImage {text : List Char} {image : MarkdownImage}
    (h : markdownImage text = some image) :
    text = image.textBefore ++ image.markdown ++ image.textAfter := by
  obtain ⟨back, rest, hbefore, hlabel, hurl⟩ := markdownImage_eq_some_iff.mp h
  have hrest := eq_of_cut hurl
  have hback := eq_of_cut hlabel
  rw [eq_of_cut hbefore, List.append_assoc, hback]
  simp only [MarkdownImage.markdown, List.append_assoc] at hrest ⊢
  rw [← hrest]
  simp

/-! ### The loop over the images -/

section

variable (decodeImage : String → Except String (String × String))

/-- `DecodeBase64FileData`: the MIME type and the data. The type of data without one is looked for
in the image itself, by `DecodeBase64ImageData`. -/
def decodeBase64FileData (url : List Char) : Except String (String × String) :=
  let ofImage (data : List Char) :=
    (decodeImage (String.ofList data)).map fun (fileType, data) => ("image/" ++ fileType, data)
  match cut [','] url with
  | none               => ofImage url
  | some (front, data) =>
    match (cut [';'] front).bind fun (front, _) => cut [':'] front with
    | none               => ofImage data
    | some (_, mimeType) => .ok (String.ofList mimeType, String.ofList data)

/-- The parts that the loop makes, and the text that is left. -/
def imageParts (text : List Char) : Except String (List GeminiPart × List Char) :=
  match _h : markdownImage text with
  | none       => .ok ([], text)
  | some image =>
    match decodeBase64FileData decodeImage image.dataURL with
    | .error e => .error ("decode markdown base64 image data failed: " ++ e)
    | .ok data => (imageParts image.textAfter).map fun (parts, text) =>
      ((if image.textBefore = [] then [] else [.text image.textBefore]) ++
        .inlineData image data :: parts, text)
termination_by text.length
decreasing_by
  rw [eq_of_markdownImage _h]
  simp [MarkdownImage.markdown]
  omega

def textParts (text : String) : Except String (List GeminiPart) :=
  if text = "" then .ok []
  else (imageParts decodeImage text.toList).map fun (parts, _) =>
    if parts = [] then [.text text.toList] else parts

end

/-! ### Texts with images -/

/-- An image, and the text in front of it, in which no image begins. -/
structure ImageText where
  before : List Char
  alt : List Char
  data : List Char
  before_free : ¬"![".toList <:+: before
  alt_free : ¬"](data:".toList <:+: alt
  data_free : ')' ∉ data

def ImageText.chars (image : ImageText) : List Char :=
  image.before ++ ("![".toList ++ image.alt ++ "](data:".toList ++ image.data ++ [')'])

/-- The text is images with texts in front of them; nothing stands behind the last one. -/
def EndsWithImage (text : List Char) : Prop :=
  ∃ images : List ImageText, text = images.flatMap ImageText.chars

def HasImage (text : List Char) : Prop :=
  ∃ (image : ImageText) (after : List Char), text = image.chars ++ after

/-- The image in front of a text is found. -/
lemma markdownImage_chars (image : ImageText) (after : List Char) :
    markdownImage (image.chars ++ after) =
      some ⟨image.before, "![".toList ++ image.alt, "data:".toList ++ image.data, after⟩ := by
  have hlabel : ¬"](data:".toList <:+: "![".toList ++ image.alt := by
    simpa [List.infix_cons_iff] using image.alt_free
  have hurl : ¬[')'] <:+: "data:".toList ++ image.data := by
    simpa [List.singleton_infix_iff] using image.data_free
  refine markdownImage_eq_some_iff.mpr
    ⟨image.alt ++ "](data:".toList ++ (image.data ++ ')' :: after), image.data ++ ')' :: after, ?_,
      ?_, ?_⟩
  · have hcut := @cut_append Char _ ['!'] image.before '[' (by decide) image.before_free
    simpa [ImageText.chars] using hcut _
  · have hcut := @cut_append Char _ "](data".toList _ ':' (by decide) hlabel
    simpa using hcut _
  · have hcut := @cut_append Char _ [] _ ')' (by decide) hurl
    simpa using hcut _

/-- The image that is found has the markers, and none of them too early. -/
lemma exists_imageText {text : List Char} {image : MarkdownImage}
    (h : markdownImage text = some image) :
    ∃ found : ImageText, text = found.chars ++ image.textAfter := by
  obtain ⟨back, rest, hbefore, hlabel, hurl⟩ := markdownImage_eq_some_iff.mp h
  obtain ⟨alt, halt⟩ : "![".toList <+: image.label := by
    have hback := eq_of_cut hlabel
    exact @isPrefix_of_append_sep _ ']' _ _ _ (by decide) ⟨back, by simpa using hback⟩
  obtain ⟨data, hdata⟩ : "data:".toList <+: image.dataURL := by
    have hrest := eq_of_cut hurl
    exact @isPrefix_of_append_sep _ ')' _ _ _ (by decide) ⟨rest, by simpa using hrest⟩
  have halt_free : ¬"](data:".toList <:+: alt := fun hinfix =>
    not_infix_of_cut (by decide) hlabel (halt ▸ hinfix.trans (List.suffix_append _ _).isInfix)
  have hdata_free : ')' ∉ data := fun hmem =>
    not_infix_of_cut (by decide) hurl (by simp [← hdata, List.singleton_infix_iff, hmem])
  refine ⟨⟨image.textBefore, alt, data, not_infix_of_cut (by decide) hbefore, halt_free,
    hdata_free⟩, (eq_of_markdownImage h).trans ?_⟩
  rw [MarkdownImage.markdown, ← halt, ← hdata]
  simp [ImageText.chars]

/-! ### The parts -/

variable {decodeImage : String → Except String (String × String)} {text rest : List Char}
  {parts : List GeminiPart}

lemma source_imageParts (h : imageParts decodeImage text = .ok (parts, rest)) :
    text = parts.flatMap GeminiPart.source ++ rest := by
  fun_induction imageParts decodeImage text generalizing parts with
  | case1 text =>
    obtain ⟨rfl, rfl⟩ := Prod.mk.inj (Except.ok.inj h)
    rfl
  | case2 => cases h
  | case3 text image himage data hdata ih =>
    obtain ⟨found, hloop, heq⟩ := Except.map_eq_ok.mp h
    obtain ⟨rfl, rfl⟩ := Prod.mk.inj heq
    rw [eq_of_markdownImage himage, ih hloop]
    by_cases hbefore : image.textBefore = [] <;> simp [hbefore, GeminiPart.source]

lemma imageParts_eq_nil_iff (h : imageParts decodeImage text = .ok (parts, rest)) :
    parts = [] ↔ ¬HasImage text := by
  rw [imageParts] at h
  split at h
  · rename_i hnone
    obtain ⟨rfl, -⟩ := Prod.mk.inj (Except.ok.inj h)
    refine iff_of_true rfl ?_
    rintro ⟨image, after, rfl⟩
    rw [markdownImage_chars] at hnone
    cases hnone
  · rename_i image himage
    have hhas : HasImage text := by
      obtain ⟨found, htext⟩ := exists_imageText himage
      exact ⟨found, image.textAfter, htext⟩
    split at h
    · cases h
    · obtain ⟨found, -, heq⟩ := Except.map_eq_ok.mp h
      obtain ⟨rfl, -⟩ := Prod.mk.inj heq
      simp [hhas]

/-- Nothing is left of a text exactly if it ends with an image. -/
lemma imageParts_rest_eq_nil_iff (h : imageParts decodeImage text = .ok (parts, rest)) :
    rest = [] ↔ EndsWithImage text := by
  fun_induction imageParts decodeImage text generalizing parts with
  | case1 text hnone =>
    obtain ⟨-, rfl⟩ := Prod.mk.inj (Except.ok.inj h)
    constructor
    · rintro rfl
      exact ⟨[], rfl⟩
    · rintro ⟨images, rfl⟩
      cases images with
      | nil => rfl
      | cons image images =>
        rw [List.flatMap_cons, markdownImage_chars] at hnone
        cases hnone
  | case2 => cases h
  | case3 text image himage data hdata ih =>
    obtain ⟨found, hloop, heq⟩ := Except.map_eq_ok.mp h
    obtain ⟨-, rfl⟩ := Prod.mk.inj heq
    rw [ih hloop]
    constructor
    · rintro ⟨images, hafter⟩
      obtain ⟨first, htext⟩ := exists_imageText himage
      exact ⟨first :: images, by rw [htext, hafter, List.flatMap_cons]⟩
    · rintro ⟨images, rfl⟩
      cases images with
      | nil => cases himage
      | cons first images =>
        rw [List.flatMap_cons, markdownImage_chars] at himage
        obtain rfl := Option.some.inj himage
        exact ⟨images, rfl⟩

/-- Images of any kind are refused; only data URLs with their MIME type are read. -/
def noImages : String → Except String (String × String) := fun _ => .error "image: unknown format"

end XinghaiApi
