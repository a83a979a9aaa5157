import Mathlib.Data.List.Basic
import KotlinMeta.Json.Printer
import KotlinMeta.Json.Text

/-! # Reading JSON text

Two facts about the reader of JSON text. A text that denotes an object or an array gives the same
fields when it is read field by field (`recordPrefix_of_obj`, `recordPrefix_of_arr`). An object of
texts and truth values is read back from the line that is written for it, whatever characters the
texts hold (`parse_line`).
-/

set_option autoImplicit false

namespace KotlinMeta.Json

/-! ## More fuel -/

/-- What can be read with some fuel is read with one more piece of it. -/
structure Outgrown (n : Nat) : Prop where
  value {cs : List Char} {r : Json × List Char} (h : value n cs = some r) :
    value (n + 1) cs = some r
  elements {seen : List Json} {cs : List Char} {r : Json × List Char}
    (h : elements n seen cs = some r) : elements (n + 1) seen cs = some r
  members {seen : Option (List (String × Json))} {cs : List Char} {r : Json × List Char}
    (h : members n seen cs = some r) : members (n + 1) seen cs = some r
  keyed {cs : List Char} {r : (Option String × Json) × List Char} (h : keyed n cs = some r) :
    keyed (n + 1) cs = some r

namespace Outgrown

variable {n : Nat} (ih : Outgrown n)
include ih

theorem value_succ {cs : List Char} {r : Json × List Char} (h : Json.value (n + 1) cs = some r) :
    Json.value (n + 2) cs = some r := by
  rw [Json.value] at h ⊢
  split at h <;> try exact h
  · -- an array
    split at h
    · exact h
    · exact ih.elements h
  · -- an object
    split at h
    · exact h
    · exact ih.members h

theorem elements_succ {seen : List Json} {cs : List Char} {r : Json × List Char}
    (h : Json.elements (n + 1) seen cs = some r) : Json.elements (n + 2) seen cs = some r := by
  rw [Json.elements] at h ⊢
  cases hv : Json.value n cs with
  | none => rw [hv] at h; cases h
  | some found =>
      rw [hv] at h
      rw [ih.value hv]
      dsimp only at h ⊢
      split at h
      · exact ih.elements h
      · exact h
      · exact h

theorem members_succ {seen : Option (List (String × Json))} {cs : List Char}
    {r : Json × List Char} (h : Json.members (n + 1) seen cs = some r) :
    Json.members (n + 2) seen cs = some r := by
  rw [Json.members] at h ⊢
  cases hk : Json.keyed n cs with
  | none => rw [hk] at h; cases h
  | some found =>
      rw [hk] at h
      rw [ih.keyed hk]
      dsimp only at h ⊢
      split at h
      · exact ih.members h
      · exact h
      · exact h

theorem keyed_succ {cs : List Char} {r : (Option String × Json) × List Char}
    (h : Json.keyed (n + 1) cs = some r) : Json.keyed (n + 2) cs = some r := by
  rw [Json.keyed] at h ⊢
  split at h
  · split at h
    · exact h
    · split at h
      · obtain ⟨found, hv, hr⟩ := Option.map_eq_some_iff.mp h
        rw [ih.value hv]
        exact congrArg some hr
      · exact h
  · exact h

end Outgrown

theorem outgrown (n : Nat) : Outgrown n := by
  induction n with
  | zero => constructor <;> intros <;> simp_all [value, elements, members, keyed]
  | succ n ih => exact ⟨ih.value_succ, ih.elements_succ, ih.members_succ, ih.keyed_succ⟩

theorem value_of_le {n m : Nat} (hle : n ≤ m) {cs : List Char} {r : Json × List Char}
    (h : value n cs = some r) : value m cs = some r := by
  induction hle with
  | refl => exact h
  | step _ ih => exact (outgrown _).value ih

theorem keyed_of_le {n m : Nat} (hle : n ≤ m) {cs : List Char}
    {r : (Option String × Json) × List Char} (h : keyed n cs = some r) : keyed m cs = some r := by
  induction hle with
  | refl => exact h
  | step _ ih => exact (outgrown _).keyed ih

/-! ## The record at the top -/

/-- Once a key is no text, nothing is read but what is skipped. -/
theorem members_none {n : Nat} {cs after : List Char} {j : Json}
    (h : members n none cs = some (j, after)) : j = unreadable := by
  induction n generalizing cs with
  | zero => rw [members] at h; cases h
  | succ n ih =>
      rw [members] at h
      split at h
      · cases h
      · dsimp only at h
        split at h
        · exact ih h
        · cases h
          rfl
        · cases h

/-- **An object is read member by member** as it is read as a value. -/
theorem memberRun_of_members {n m : Nat} (hle : n ≤ m) {seen ms : List (String × Json)}
    {cs after : List Char} (h : members n (some seen) cs = some (obj ms, after)) :
    memberRun m seen cs = (ms, skipSpace after == []) := by
  induction n generalizing m seen cs with
  | zero => rw [members] at h; cases h
  | succ n ih =>
      obtain ⟨m, rfl⟩ : ∃ k, m = k + 1 := ⟨m - 1, by omega⟩
      have hle : n ≤ m := by omega
      rw [members] at h
      rw [memberRun]
      cases hk : keyed n cs with
      | none => rw [hk] at h; cases h
      | some found =>
          obtain ⟨⟨key, v⟩, rest⟩ := found
          rw [hk] at h
          rw [keyed_of_le hle hk]
          dsimp only at h
          cases key with
          | none =>
              dsimp only at h
              split at h
              · cases members_none h
              · cases h
              · cases h
          | some key =>
              dsimp only at h ⊢
              split at h
              · exact ih hle h
              · cases h
                rfl
              · cases h

/-- **An array is read element by element** as it is read as a value. -/
theorem elementRun_of_elements {n m : Nat} (hle : n ≤ m) {seen js : List Json}
    {cs after : List Char} (h : elements n seen cs = some (arr js, after)) :
    elementRun m seen cs = (js, skipSpace after == []) := by
  induction n generalizing m seen cs with
  | zero => rw [elements] at h; cases h
  | succ n ih =>
      obtain ⟨m, rfl⟩ : ∃ k, m = k + 1 := ⟨m - 1, by omega⟩
      have hle : n ≤ m := by omega
      rw [elements] at h
      rw [elementRun]
      cases hv : value n cs with
      | none => rw [hv] at h; cases h
      | some found =>
          rw [hv] at h
          rw [value_of_le hle hv]
          dsimp only at h ⊢
          split at h
          · exact ih hle h
          · cases h
            rfl
          · cases h

theorem elements_eq_arr {n : Nat} {seen : List Json} {cs after : List Char} {j : Json}
    (h : elements n seen cs = some (j, after)) : ∃ js, j = arr js := by
  induction n generalizing seen cs with
  | zero => rw [elements] at h; cases h
  | succ n ih =>
      rw [elements] at h
      split at h
      · cases h
      · split at h
        · exact ih h
        · cases h
          exact ⟨_, rfl⟩
        · cases h

theorem members_ne_arr {n : Nat} {seen : Option (List (String × Json))} {cs after : List Char}
    {js : List Json} : members n seen cs ≠ some (arr js, after) := by
  intro h
  induction n generalizing seen cs with
  | zero => rw [members] at h; cases h
  | succ n ih =>
      rw [members] at h
      split at h
      · cases h
      · dsimp only at h
        split at h
        · exact ih h
        · -- at the closing bracket: an object, or nothing but what is skipped
          rw [Option.some.injEq, Prod.mk.injEq] at h
          split at h <;> cases h.1
        · cases h

theorem unsignedNumber_eq {negative : Bool} {cs after : List Char} {j : Json}
    (h : unsignedNumber negative cs = some (j, after)) :
    (∃ n, j = int n) ∨ ∃ text, j = decimal text := by
  simp only [unsignedNumber, Option.bind_eq_bind, Option.bind_eq_some_iff] at h
  obtain ⟨_, -, _, -, _, -, h⟩ := h
  split at h <;> cases h
  · exact Or.inl ⟨_, rfl⟩
  · exact Or.inr ⟨_, rfl⟩

theorem number_eq {cs after : List Char} {j : Json} (h : number cs = some (j, after)) :
    (∃ n, j = int n) ∨ ∃ text, j = decimal text := by
  unfold number at h
  split at h <;> exact unsignedNumber_eq h

/-- An object starts with its bracket, and goes on with the closing one or with members. -/
theorem value_eq_obj {n : Nat} {cs after : List Char} {ms : List (String × Json)}
    (h : value (n + 1) cs = some (obj ms, after)) :
    ∃ rest, skipSpace cs = '\x7b' :: rest ∧
      ((skipSpace rest = '\x7d' :: after ∧ ms = []) ∨
        (∀ end_, skipSpace rest ≠ '\x7d' :: end_) ∧
          members n (some []) rest = some (obj ms, after)) := by
  rw [value] at h
  split at h
  · cases h
  · cases h
  · cases h
  · obtain ⟨⟨text, rest⟩, -, hr⟩ := Option.map_eq_some_iff.mp h
    cases text <;> cases hr
  · split at h
    · cases h
    · obtain ⟨js, hjs⟩ := elements_eq_arr h
      cases hjs
  · rename_i rest hrest
    refine ⟨rest, hrest, ?_⟩
    split at h
    · rename_i hclose
      cases h
      exact Or.inl ⟨hclose, rfl⟩
    · rename_i hopen
      exact Or.inr ⟨hopen, h⟩
  · obtain ⟨_, hj⟩ | ⟨_, hj⟩ := number_eq h <;> cases hj

/-- An array starts with its bracket, and goes on with the closing one or with elements. -/
theorem value_eq_arr {n : Nat} {cs after : List Char} {js : List Json}
    (h : value (n + 1) cs = some (arr js, after)) :
    ∃ rest, skipSpace cs = '[' :: rest ∧
      ((skipSpace rest = ']' :: after ∧ js = []) ∨
        (∀ end_, skipSpace rest ≠ ']' :: end_) ∧
          elements n [] rest = some (arr js, after)) := by
  rw [value] at h
  split at h
  · cases h
  · cases h
  · cases h
  · obtain ⟨⟨text, rest⟩, -, hr⟩ := Option.map_eq_some_iff.mp h
    cases text <;> cases hr
  · rename_i rest hrest
    refine ⟨rest, hrest, ?_⟩
    split at h
    · rename_i hclose
      cases h
      exact Or.inl ⟨hclose, rfl⟩
    · rename_i hopen
      exact Or.inr ⟨hopen, h⟩
  · split at h
    · cases h
    · exact absurd h members_ne_arr
  · obtain ⟨_, hj⟩ | ⟨_, hj⟩ := number_eq h <;> cases hj

/-- A text denotes what is read from it if only white space follows. -/
theorem parse_eq_some {text : String} {j : Json} (h : parse text = some j) :
    ∃ after, value (fuelFor text.toList) text.toList = some (j, after) ∧ skipSpace after = [] := by
  rw [parse] at h
  split at h
  · rename_i v after hvalue
    split at h
    · rename_i hend
      cases h
      exact ⟨after, hvalue, hend⟩
    · cases h
  · cases h

/-- **A text that denotes an object has the members of that object**, when it is read member by
member, and nothing else. -/
theorem recordPrefix_of_obj {text : String} {ms : List (String × Json)}
    (h : parse text = some (obj ms)) (known : List String) :
    recordPrefix known text = (ms, true) := by
  obtain ⟨after, hvalue, hend⟩ := parse_eq_some h
  obtain ⟨rest, hrest, hcases⟩ := value_eq_obj hvalue
  rw [recordPrefix, hrest]
  rcases hcases with ⟨hclose, rfl⟩ | ⟨hopen, hmembers⟩
  · simp [hclose, hend]
  · have hrun := memberRun_of_members (Nat.le_succ _) hmembers
    rw [hend] at hrun
    simp only
    exact hrun

/-- **A text that denotes an array has its elements under the known keys**, and is whole if there
are no more elements than keys. -/
theorem recordPrefix_of_arr {text : String} {js : List Json} (h : parse text = some (arr js))
    (known : List String) :
    recordPrefix known text = (known.zip js, decide (js.length ≤ known.length)) := by
  obtain ⟨after, hvalue, hend⟩ := parse_eq_some h
  obtain ⟨rest, hrest, hcases⟩ := value_eq_arr hvalue
  rw [recordPrefix, hrest]
  rcases hcases with ⟨hclose, rfl⟩ | ⟨hopen, helements⟩
  · simp [hclose, hend]
  · have hrun := elementRun_of_elements (Nat.le_succ _) helements
    rw [hend] at hrun
    simp only
    exact congrArg (underKeys known) hrun

/-! ## String literals -/

theorem hexDigit_digitChar {d : Nat} (h : d < 16) : hexDigit (Nat.digitChar d) = some d := by
  have hall : ∀ d, d < 16 → hexDigit (Nat.digitChar d) = some d := by decide
  exact hall d h

/-- The four digits of an escape are read as the code point. -/
theorem codePoints_unicodeEscape {c : Char} (h : c.toNat < 0x10000) (seen : List Nat)
    (rest : List Char) :
    codePoints .plain seen (unicodeEscape c ++ rest) =
      codePoints .plain (c.toNat :: seen) rest := by
  have hdigits : (((c.toNat / 0x1000 % 16) * 16 + c.toNat / 0x100 % 16) * 16 +
      c.toNat / 0x10 % 16) * 16 + c.toNat % 16 = c.toNat := by omega
  have hlt : ∀ n : Nat, n % 16 < 16 := fun n => Nat.mod_lt n (by decide)
  simp [unicodeEscape, codePoints, hexDigit_digitChar (hlt _), hdigits]

theorem codePoints_short {c e : Char} (hu : e ≠ 'u') (h : shortEscape e = some c)
    (seen : List Nat) (rest : List Char) :
    codePoints .plain seen ('\\' :: e :: rest) = codePoints .plain (c.toNat :: seen) rest := by
  simp [codePoints, hu, h]

theorem codePoints_self {c : Char} (hquote : c ≠ '"') (hslash : c ≠ '\\') (h : 0x20 ≤ c.toNat)
    (seen : List Nat) (rest : List Char) :
    codePoints .plain seen (c :: rest) = codePoints .plain (c.toNat :: seen) rest := by
  rw [codePoints, if_neg hquote, if_neg hslash, if_neg (by omega)]

theorem codePoints_escaped (c : Char) (seen : List Nat) (rest : List Char) :
    codePoints .plain seen (escaped c ++ rest) = codePoints .plain (c.toNat :: seen) rest := by
  unfold escaped
  split
  · subst_vars; exact codePoints_short (by decide) rfl seen rest
  split
  · subst_vars; exact codePoints_short (by decide) rfl seen rest
  split
  · subst_vars; exact codePoints_short (by decide) rfl seen rest
  split
  · subst_vars; exact codePoints_short (by decide) rfl seen rest
  split
  · subst_vars; exact codePoints_short (by decide) rfl seen rest
  split
  · subst_vars; exact codePoints_short (by decide) rfl seen rest
  split
  · subst_vars; exact codePoints_short (by decide) rfl seen rest
  split
  · exact codePoints_unicodeEscape (by omega) seen rest
  · exact codePoints_self ‹_› ‹_› (by omega) seen rest

theorem codePoints_escapedOnLine (c : Char) (seen : List Nat) (rest : List Char) :
    codePoints .plain seen (escapedOnLine c ++ rest) =
      codePoints .plain (c.toNat :: seen) rest := by
  unfold escapedOnLine
  split
  · exact codePoints_unicodeEscape (by omega) seen rest
  · exact codePoints_escaped c seen rest

theorem codePoints_text (cs : List Char) (seen : List Nat) (rest : List Char) :
    codePoints .plain seen (cs.flatMap escapedOnLine ++ '"' :: rest) =
      some (seen.reverse ++ cs.map Char.toNat, rest) := by
  induction cs generalizing seen with
  | nil => simp [codePoints]
  | cons c cs ih =>
      rw [List.flatMap_cons, List.append_assoc, codePoints_escapedOnLine, ih]
      simp

/-- No character is a surrogate. -/
theorem not_isSurrogate (c : Char) :
    isHighSurrogate c.toNat = false ∧ isLowSurrogate c.toNat = false := by
  have hvalid : c.toNat < 0xD800 ∨ 0xDFFF < c.toNat ∧ c.toNat < 0x110000 := c.valid
  simp only [isHighSurrogate, isLowSurrogate, Bool.and_eq_false_iff, decide_eq_false_iff_not]
  omega

theorem spelled_map_toNat (cs : List Char) : spelled (cs.map Char.toNat) = some cs := by
  induction cs with
  | nil => rfl
  | cons c cs ih =>
      obtain ⟨hhigh, hlow⟩ := not_isSurrogate c
      cases cs with
      | nil => simp [spelled, hhigh, hlow]
      | cons d cs => simpa [spelled, hhigh, hlow] using ih

/-- **A string literal is read as the text that it was written for.** -/
theorem stringTail_text (text : String) (rest : List Char) :
    stringTail (text.toList.flatMap escapedOnLine ++ '"' :: rest) = some (some text, rest) := by
  rw [stringTail, codePoints_text]
  simp [spelled_map_toNat]

/-! ## Objects on a line -/

/-- A text or a truth value. -/
inductive IsPlain : Json → Prop
  | str (text : String) : IsPlain (str text)
  | bool (b : Bool) : IsPlain (bool b)

/-- A plain value is read from its line. -/
theorem value_line {v : Json} (h : IsPlain v) (n : Nat) (rest : List Char) :
    value (n + 1) ((line v).toList ++ rest) = some (v, rest) := by
  cases h with
  | str text =>
      simp [line, literal, value, skipSpace, isSpace, stringTail_text]
  | bool b => cases b <;> simp [line, value, skipSpace, isSpace]

theorem keyed_line {v : Json} (h : IsPlain v) (key : String) (n : Nat) (rest : List Char) :
    keyed (n + 2) ((literal escapedOnLine key ++ ":" ++ line v).toList ++ rest) =
      some ((some key, v), rest) := by
  have hv := value_line h n rest
  simp [literal, keyed, skipSpace, isSpace, stringTail_text, hv]

/-- The text after a member: a comma and the other members, or nothing. -/
theorem toList_memberLine_cons (key : String) (v : Json) (rest : List (String × Json)) :
    (memberLine ((key, v) :: rest)).toList =
      (literal escapedOnLine key ++ ":" ++ line v).toList ++
        if rest.isEmpty then [] else ',' :: (memberLine rest).toList := by
  rw [memberLine]
  cases rest with
  | nil => simp [memberLine]
  | cons m rest => simp

theorem length_le_memberLine (ms : List (String × Json)) :
    ms.length ≤ (memberLine ms).toList.length := by
  induction ms with
  | nil => exact Nat.zero_le _
  | cons m rest ih =>
      obtain ⟨key, v⟩ := m
      have hkey : 0 < (literal escapedOnLine key).toList.length := by simp [literal]
      rw [memberLine]
      simp only [String.toList_append, List.length_append, List.length_cons] at hkey ih ⊢
      omega

/-- Members are read to the closing bracket, with one piece of fuel for each and some for the
last. -/
theorem members_line {ms : List (String × Json)} (hplain : ∀ m ∈ ms, IsPlain m.2) (hne : ms ≠ [])
    {n : Nat} (hfuel : ms.length + 2 ≤ n) (seen : List (String × Json)) (rest : List Char) :
    members n (some seen) ((memberLine ms).toList ++ '\x7d' :: rest) =
      some (obj (seen.reverse ++ ms), rest) := by
  induction ms generalizing n seen with
  | nil => exact absurd rfl hne
  | cons m ms ih =>
      obtain ⟨key, v⟩ := m
      obtain ⟨hv, hms⟩ := List.forall_mem_cons.mp hplain
      rw [List.length_cons] at hfuel
      obtain ⟨n, rfl⟩ : ∃ k, n = k + 3 := ⟨n - 3, by omega⟩
      rw [members, toList_memberLine_cons, List.append_assoc, keyed_line hv]
      cases ms with
      | nil => simp [skipSpace, isSpace]
      | cons m' ms =>
          have hrest := ih hms (by simp) (by omega : (m' :: ms).length + 2 ≤ n + 2)
            ((key, v) :: seen)
          simpa [skipSpace, isSpace] using hrest

/-- Members start with the quote of a key. -/
theorem skipSpace_memberLine {ms : List (String × Json)} (hne : ms ≠ []) (rest : List Char) :
    ∃ cs, skipSpace ((memberLine ms).toList ++ rest) = '"' :: cs := by
  cases ms with
  | nil => exact absurd rfl hne
  | cons m ms =>
      obtain ⟨key, v⟩ := m
      rw [toList_memberLine_cons]
      simp [literal, skipSpace, isSpace]

theorem value_objLine {ms : List (String × Json)} (hplain : ∀ m ∈ ms, IsPlain m.2) {n : Nat}
    (hfuel : ms.length + 2 ≤ n) (rest : List Char) :
    value (n + 1) ('\x7b' :: ((memberLine ms).toList ++ '\x7d' :: rest)) =
      some (obj ms, rest) := by
  by_cases hne : ms = []
  · subst hne
    simp [value, memberLine, skipSpace, isSpace]
  · have hmembers := members_line hplain hne hfuel [] rest
    obtain ⟨cs, hcs⟩ := skipSpace_memberLine hne ('\x7d' :: rest)
    have hbracket : skipSpace ('\x7b' :: ((memberLine ms).toList ++ '\x7d' :: rest)) =
        '\x7b' :: ((memberLine ms).toList ++ '\x7d' :: rest) := rfl
    rw [value, hbracket]
    simp only [hcs]
    exact hmembers

/-- **An object is read from the line that is written for it**, whatever the keys and texts in it
are. -/
theorem parse_line {ms : List (String × Json)} (hplain : ∀ m ∈ ms, IsPlain m.2) :
    parse (line (obj ms)) = some (obj ms) := by
  have htext : (line (obj ms)).toList = '\x7b' :: ((memberLine ms).toList ++ ['\x7d']) := by
    simp [line]
  have hlength := length_le_memberLine ms
  have hfuel : ms.length + 2 ≤ 2 * (line (obj ms)).toList.length + 1 := by
    rw [htext, List.length_cons, List.length_append]
    omega
  have hvalue := value_objLine hplain hfuel []
  rw [← htext] at hvalue
  rw [parse, fuelFor, hvalue]
  rfl

end KotlinMeta.Json
