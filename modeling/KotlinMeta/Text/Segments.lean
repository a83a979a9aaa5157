set_option autoImplicit false

/-! # Segments of a text

A text cut at a separator, and its inverse. `joined_segments` says that cutting loses nothing, and
`segments_joined` that segments without the separator come back as they were.
-/

namespace KotlinMeta.Text

/-! ## Cutting at every separator -/

/-- The pieces between the occurrences of `sep`; the empty text has one empty piece. -/
def segments (sep : Char) : List Char → List (List Char)
  | [] => [[]]
  | c :: cs =>
    if c = sep then [] :: segments sep cs
    else
      match segments sep cs with
      | [] => [[c]]
      | s :: rest => (c :: s) :: rest

/-- The pieces, with `sep` between each and the next. -/
def joined (sep : Char) : List (List Char) → List Char
  | [] => []
  | [s] => s
  | s :: t :: rest => s ++ sep :: joined sep (t :: rest)

theorem segments_ne_nil (sep : Char) (cs : List Char) : segments sep cs ≠ [] := by
  induction cs with
  | nil => simp [segments]
  | cons c cs ih =>
    by_cases h : c = sep
    · simp [segments, h]
    · rw [segments, if_neg h]
      split <;> simp

theorem joined_cons_cons (sep c : Char) (s : List Char) (rest : List (List Char)) :
    joined sep ((c :: s) :: rest) = c :: joined sep (s :: rest) := by
  cases rest <;> rfl

/-- Cutting a text and joining the pieces gives the text back. -/
theorem joined_segments (sep : Char) (cs : List Char) : joined sep (segments sep cs) = cs := by
  induction cs with
  | nil => rfl
  | cons c cs ih =>
    by_cases h : c = sep
    · rw [segments, if_pos h]
      cases hs : segments sep cs with
      | nil => exact absurd hs (segments_ne_nil sep cs)
      | cons s rest => rw [hs] at ih; simp [joined, ih, h]
    · rw [segments, if_neg h]
      cases hs : segments sep cs with
      | nil => exact absurd hs (segments_ne_nil sep cs)
      | cons s rest => rw [hs] at ih; simp only [joined_cons_cons, ih]

/-- No piece holds the separator. -/
theorem not_mem_of_mem_segments {sep : Char} {cs s : List Char} (hs : s ∈ segments sep cs) :
    sep ∉ s := by
  induction cs generalizing s with
  | nil => simp_all [segments]
  | cons c cs ih =>
    by_cases h : c = sep
    · rw [segments, if_pos h] at hs
      rcases List.mem_cons.1 hs with rfl | hs
      · simp
      · exact ih hs
    · rw [segments, if_neg h] at hs
      cases hseg : segments sep cs with
      | nil => exact absurd hseg (segments_ne_nil sep cs)
      | cons t rest =>
        rw [hseg] at hs ih
        rcases List.mem_cons.1 hs with rfl | hs
        · have := ih (List.mem_cons_self ..)
          simp [this, Ne.symm h]
        · exact ih (List.mem_cons_of_mem _ hs)

theorem segments_of_not_mem {sep : Char} {s : List Char} (h : sep ∉ s) : segments sep s = [s] := by
  induction s with
  | nil => rfl
  | cons c s ih =>
    obtain ⟨hc, hs⟩ := not_or.1 (mt List.mem_cons.2 h)
    rw [segments, if_neg (Ne.symm hc), ih hs]

/-- A separator between two texts is between their pieces. -/
theorem segments_append (sep : Char) (cs ds : List Char) :
    segments sep (cs ++ sep :: ds) = segments sep cs ++ segments sep ds := by
  induction cs with
  | nil => simp [segments]
  | cons c cs ih =>
    rw [List.cons_append, segments, segments, ih]
    by_cases h : c = sep
    · rw [if_pos h, if_pos h, List.cons_append]
    · rw [if_neg h, if_neg h]
      cases hs : segments sep cs with
      | nil => exact absurd hs (segments_ne_nil sep cs)
      | cons s rest => rfl

/-- Joining pieces free of the separator and cutting the result gives the pieces back. -/
theorem segments_joined {sep : Char} {ss : List (List Char)} (hne : ss ≠ [])
    (h : ∀ s ∈ ss, sep ∉ s) : segments sep (joined sep ss) = ss := by
  induction ss with
  | nil => exact absurd rfl hne
  | cons s rest ih =>
    cases rest with
    | nil => exact segments_of_not_mem (h s (List.mem_cons_self ..))
    | cons t rest =>
      rw [joined, segments_append, segments_of_not_mem (h s (List.mem_cons_self ..)),
        ih (by simp) fun u hu => h u (List.mem_cons_of_mem _ hu)]
      rfl

/-! ## Cutting at the last separator -/

/-- What stands before and after the last occurrence of `sep`, if there is one. -/
def splitLast (sep : Char) : List Char → Option (List Char × List Char)
  | [] => none
  | c :: cs =>
    match splitLast sep cs with
    | some (before, after) => some (c :: before, after)
    | none => if c = sep then some ([], cs) else none

/-! ## The same on strings -/

/-- The pieces of a string between the occurrences of `sep`. -/
def split (sep : Char) (text : String) : List String :=
  (segments sep text.toList).map String.ofList

/-- Strings joined by `sep`. -/
def join (sep : Char) (parts : List String) : String :=
  String.ofList (joined sep (parts.map String.toList))

end KotlinMeta.Text
