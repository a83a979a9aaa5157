import KotlinMeta.Proofs.ClassName.Spelling

/-! # Class names that are guessed

A dotted name is cut in front of its first segment with a capital letter (`bestGuess_cut`). No part
of the name is lost, unless it starts with a point, and a class name that keeps to the convention is
guessed from its qualified name (`bestGuess_inverts`).
-/

set_option autoImplicit false

namespace KotlinMeta.ClassName

/-- The segments of a dotted name in front of the cut and after it: the first with a capital letter
comes right after the cut, and the last segment is always behind it. -/
structure Cut (dotted : String) (front back : List String) : Prop where
  segments : Text.split '.' dotted = front ++ back
  back_ne_nil : back ≠ []
  front_plain : ∀ s ∈ front, startsUppercase s = false
  back_head : (∃ s ∈ back, startsUppercase s = true) →
    ∃ s ∈ back.head?, startsUppercase s = true

/-- **The guess is made at the cut.** -/
theorem bestGuess_cut (dotted : String) : ∃ front back, Cut dotted front back ∧
    bestGuess dotted = ⟨Text.join '.' front, back⟩ := by
  have hsegments := Text.split_ne_nil '.' dotted
  have hlength := List.length_pos_iff.mpr hsegments
  cases hfind : (Text.split '.' dotted).findIdx? startsUppercase with
  | none =>
      have hplain := List.findIdx?_eq_none_iff.mp hfind
      refine ⟨_, _, ⟨(List.take_append_drop ((Text.split '.' dotted).length - 1) _).symm,
        ?_, fun s hs => hplain s (List.mem_of_mem_take hs), ?_⟩, ?_⟩
      · rw [Ne, List.drop_eq_nil_iff]
        omega
      · rintro ⟨s, hs, hcapital⟩
        rw [hplain s (List.mem_of_mem_drop hs)] at hcapital
        cases hcapital
      · rw [bestGuess, hfind]
        rfl
  | some i =>
      obtain ⟨hi, hindex⟩ := List.findIdx?_eq_some_iff_findIdx_eq.mp hfind
      obtain ⟨hi, hcapital, -⟩ := List.findIdx?_eq_some_iff_getElem.mp hfind
      refine ⟨_, _, ⟨(List.take_append_drop i _).symm, ?_, fun s hs => ?_, fun _ => ?_⟩, ?_⟩
      · rw [Ne, List.drop_eq_nil_iff]
        omega
      · rw [← hindex] at hs
        exact List.false_of_mem_take_findIdx hs
      · refine ⟨(Text.split '.' dotted)[i], ?_, hcapital⟩
        rw [List.head?_drop, List.getElem?_eq_getElem hi]
        rfl
      · rw [bestGuess, hfind]
        rfl

namespace Cut

variable {dotted : String} {front back : List String} (h : Cut dotted front back)
include h

theorem join_eq : Text.join '.' (front ++ back) = dotted := by
  rw [← h.segments, Text.join_split]

theorem not_mem : ∀ s ∈ front ++ back, '.' ∉ s.toList := by
  rw [← h.segments]
  exact fun s hs => Text.not_mem_of_mem_split hs

/-- No segment of the guessed package has a capital letter. -/
theorem split_join_front : ∀ s ∈ Text.split '.' (Text.join '.' front), startsUppercase s = false := by
  by_cases hfront : front = []
  · -- the empty package is cut into one empty segment
    intro s hs
    rw [hfront] at hs
    rw [List.mem_singleton.mp hs]
    rfl
  · rw [Text.split_join hfront fun s hs => h.not_mem s (List.mem_append_left back hs)]
    exact h.front_plain

/-- Package and simple names make up the name, unless the package is lost as it is empty and comes
in front of a point. -/
theorem qualified_eq (hpoint : dotted.toList.head? ≠ some '.') :
    qualified ⟨Text.join '.' front, back⟩ = dotted := by
  by_cases hfront : front = []
  · rw [hfront]
    show qualified ⟨"", back⟩ = dotted
    rw [qualified_of_no_package, ← h.join_eq, hfront, List.nil_append]
  · have hdotted := Text.toList_join_append '.' hfront h.back_ne_nil
    rw [h.join_eq] at hdotted
    have hpackage : Text.join '.' front ≠ "" := by
      intro hempty
      rw [hempty] at hdotted
      exact hpoint (by rw [hdotted]; rfl)
    rw [qualified_of_package hpackage, ← String.toList_inj, hdotted]
    simp

end Cut

/-- A name is cut in front of a segment with a capital letter if none comes before. -/
theorem bestGuess_of_split {dotted first : String} {front rest : List String}
    (hsegments : Text.split '.' dotted = front ++ first :: rest)
    (hfront : ∀ s ∈ front, startsUppercase s = false) (hfirst : startsUppercase first = true) :
    bestGuess dotted = ⟨Text.join '.' front, first :: rest⟩ := by
  have hfind : (front ++ first :: rest).findIdx? startsUppercase = some front.length := by
    rw [List.findIdx?_append, List.findIdx?_eq_none_iff.mpr hfront, List.findIdx?_cons,
      if_pos hfirst]
    simp
  rw [bestGuess, hsegments, hfind]
  show (⟨Text.join '.' ((front ++ first :: rest).take front.length),
    (front ++ first :: rest).drop front.length⟩ : ClassName) = _
  rw [List.take_left, List.drop_left]

/-- A class name by the convention: no segment of the package starts with a capital letter, the
outermost simple name does, and no simple name holds a point. -/
structure Conventional (c : ClassName) : Prop where
  package : ∀ s ∈ Text.split '.' c.packageName, startsUppercase s = false
  outermost : ∃ n ∈ c.simpleNames.head?, startsUppercase n = true
  names : ∀ n ∈ c.simpleNames, '.' ∉ n.toList

theorem Conventional.bestGuess_qualified {c : ClassName} (h : c.Conventional) :
    bestGuess c.qualified = c := by
  obtain ⟨package, simpleNames⟩ := c
  obtain ⟨first, hhead, hfirst⟩ := h.outermost
  obtain ⟨rest, rfl⟩ := List.head?_eq_some_iff.mp hhead
  have hnames : Text.split '.' (Text.join '.' (first :: rest)) = first :: rest :=
    Text.split_join (by simp) h.names
  by_cases hpackage : package = ""
  · rw [hpackage, qualified_of_no_package]
    rw [← List.nil_append (first :: rest)] at hnames
    exact bestGuess_of_split hnames (by simp) hfirst
  · have hsegments : Text.split '.' (package ++ "." ++ Text.join '.' (first :: rest)) =
        Text.split '.' package ++ first :: rest := by
      rw [Text.split_append package (Text.join '.' (first :: rest)) (by simp), hnames]
    rw [qualified_of_package hpackage, bestGuess_of_split hsegments h.package hfirst,
      Text.join_split]

/-- **Guessing inverts qualified names.** A dotted name is the qualified name of the class that is
guessed, unless it starts with a point; its package has no segment with a capital letter, and the
outermost class has one if any segment has. A class name that keeps to the convention is guessed
from its qualified name; so it is the same class that is read from its spelling in metadata, where
it has one. -/
theorem bestGuess_inverts :
    (∀ dotted : String, dotted.toList.head? ≠ some '.' → (bestGuess dotted).qualified = dotted) ∧
    (∀ dotted, (bestGuess dotted).simpleNames ≠ [] ∧
      (∀ s ∈ Text.split '.' (bestGuess dotted).packageName, startsUppercase s = false) ∧
      ((∃ s ∈ Text.split '.' dotted, startsUppercase s = true) →
        ∃ n ∈ (bestGuess dotted).simpleNames.head?, startsUppercase n = true)) ∧
    (∀ c : ClassName, c.Conventional → bestGuess c.qualified = c) ∧
    ∀ c : ClassName, c.Conventional → c.Separable →
      bestGuess c.qualified = ofMetadata c.metadata := by
  refine ⟨fun dotted hpoint => ?_, fun dotted => ?_, fun c h => h.bestGuess_qualified,
    fun c h hseparable => h.bestGuess_qualified.trans hseparable.read_metadata.symm⟩
  · obtain ⟨front, back, hcut, hguess⟩ := bestGuess_cut dotted
    rw [hguess]
    exact hcut.qualified_eq hpoint
  · obtain ⟨front, back, hcut, hguess⟩ := bestGuess_cut dotted
    rw [hguess]
    refine ⟨hcut.back_ne_nil, hcut.split_join_front, ?_⟩
    rintro ⟨s, hs, hcapital⟩
    rw [hcut.segments, List.mem_append] at hs
    rcases hs with hs | hs
    · rw [hcut.front_plain s hs] at hcapital
      cases hcapital
    · exact hcut.back_head ⟨s, hs, hcapital⟩

/-- Only the outermost class needs a capital letter, which can be any; without one the last segment
is the class, also if it is empty. -/
theorem bestGuess_inverts_umlaut :
    (bestGuess "io..acme.").qualified = "io..acme." ∧
    bestGuess "io.acme.Änderung.entry" = ⟨"io.acme", ["Änderung", "entry"]⟩ ∧
    bestGuess "io.acme.Änderung.entry" = ofMetadata "io/acme/Änderung.entry" := by
  have hconventional : Conventional ⟨"io.acme", ["Änderung", "entry"]⟩ :=
    ⟨by decide +kernel, ⟨"Änderung", rfl, by decide +kernel⟩, by decide +kernel⟩
  have hseparable : Separable ⟨"io.acme", ["Änderung", "entry"]⟩ :=
    ⟨by decide +kernel, by decide, by decide +kernel⟩
  have hqualified : qualified ⟨"io.acme", ["Änderung", "entry"]⟩ = "io.acme.Änderung.entry" := by
    decide +kernel
  have hmetadata : metadata ⟨"io.acme", ["Änderung", "entry"]⟩ = "io/acme/Änderung.entry" := by
    decide +kernel
  obtain ⟨hdotted, -, hinverts, hagree⟩ := bestGuess_inverts
  refine ⟨hdotted _ (by decide +kernel), ?_, ?_⟩
  · rw [← hqualified]
    exact hinverts _ hconventional
  · rw [← hqualified, ← hmetadata]
    exact hagree _ hconventional hseparable

end KotlinMeta.ClassName
