import Mathlib.Data.List.Induction
import KotlinMeta.Proofs.Entries
import KotlinMeta.Proofs.Identifier
import KotlinMeta.Proofs.NameTable.Fresh

/-! # Names are given out once

A table serves requests one after another. `NameTable.transcript` lists each request with its
answer, and what the table holds afterwards can be read off it (`Records`): the names in the
answers, and those of them that were asked for under a tag. One request adds its own name or is
refused (`serve_cases`); so no two answers are the same name, however many requests there are
(`names_given_once`).
-/

set_option autoImplicit false

namespace KotlinMeta.NameTable

/-! ## Requests and answers -/

/-- A request with its answer. -/
abbrev Exchange := NameRequest × Except SynthesisError String

/-- The table after requests, served in order. -/
def served (t : NameTable) (requests : List NameRequest) : NameTable :=
  requests.foldl (fun t request => (t.serve request).2) t

/-- The requests in order, each with the answer of the table that it meets. -/
def transcript (t : NameTable) : List NameRequest → List Exchange
  | [] => []
  | request :: rest => (request, (t.serve request).1) :: transcript (t.serve request).2 rest

/-- The names that were given out. -/
def givenNames (exchanges : List Exchange) : List String :=
  exchanges.filterMap fun e => e.2.toOption

/-- The tag and the name of a tagged request that was met. -/
def keptName? : Exchange → Option (String × String)
  | (.tagged _ tag, .ok name) => some (tag, name)
  | _ => none

/-- The tags with the names that were given out for them. -/
def keptNames (exchanges : List Exchange) : List (String × String) :=
  exchanges.filterMap keptName?

theorem served_concat (t : NameTable) (requests : List NameRequest) (request : NameRequest) :
    t.served (requests ++ [request]) = ((t.served requests).serve request).2 :=
  List.foldl_concat ..

theorem transcript_concat (t : NameTable) (requests : List NameRequest) (request : NameRequest) :
    t.transcript (requests ++ [request]) =
      t.transcript requests ++ [(request, ((t.served requests).serve request).1)] := by
  induction requests generalizing t with
  | nil => rfl
  | cons first rest ih =>
      show (first, (t.serve first).1) :: transcript (t.serve first).2 (rest ++ [request]) = _
      rw [ih]
      rfl

theorem map_fst_transcript (t : NameTable) (requests : List NameRequest) :
    (t.transcript requests).map Prod.fst = requests := by
  induction requests generalizing t with
  | nil => rfl
  | cons first rest ih =>
      show first :: (transcript (t.serve first).2 rest).map Prod.fst = _
      rw [ih]

/-- A name kept under a tag is one of the names given out. -/
theorem keptNames_sublist (exchanges : List Exchange) :
    ((keptNames exchanges).map Prod.snd).Sublist (givenNames exchanges) := by
  induction exchanges with
  | nil => exact .slnil
  | cons e rest ih =>
      obtain ⟨request, answer⟩ := e
      cases answer with
      | error refusal => cases request <;> exact ih
      | ok name =>
          cases request with
          | plain suggestion => exact ih.cons name
          | tagged suggestion tag => exact ih.cons_cons name

/-! ## One request -/

/-- A name as it is given out: no name of before, no keyword and a word. -/
structure Fresh (t : NameTable) (name : String) : Prop where
  new : name ∉ t.allocated
  notKeyword : Identifier.isKeyword name = false
  isWord : Identifier.IsWord name

theorem fresh_allocate (t : NameTable) (suggestion : String) :
    t.Fresh (t.allocate suggestion).1 := by
  obtain ⟨k, hk, hfree, -⟩ := t.allocate_first_free suggestion
  obtain ⟨hkeyword, hnew⟩ := isTaken_eq_false_iff.mp hfree
  rw [hk]
  exact ⟨hnew, hkeyword,
    (Identifier.isWord_ofText suggestion).append_underscores (toList_underscored _ k)⟩

/-- What one request can do: it is refused and leaves the table as it is, or a fresh name is given
out and kept under the tag that the request has. -/
theorem serve_cases (t : NameTable) (request : NameRequest) :
    (∃ suggestion tag, request = .tagged suggestion tag ∧ (t.get? tag).isSome = true ∧
      t.serve request = (.error (.tagInUse tag), t)) ∨
    (∃ suggestion name, request = .plain suggestion ∧ t.Fresh name ∧
      t.serve request = (.ok name, { t with allocated := name :: t.allocated })) ∨
    ∃ suggestion tag name, request = .tagged suggestion tag ∧ t.get? tag = none ∧ t.Fresh name ∧
      t.serve request =
        (.ok name, { allocated := name :: t.allocated, tags := (tag, name) :: t.tags }) := by
  cases request with
  | plain suggestion =>
      exact Or.inr (Or.inl ⟨suggestion, _, rfl, fresh_allocate t suggestion, rfl⟩)
  | tagged suggestion tag =>
      by_cases htag : (t.get? tag).isSome = true
      · refine Or.inl ⟨suggestion, tag, rfl, htag, ?_⟩
        show t.allocateTagged suggestion tag = _
        rw [allocateTagged, if_pos htag]
      · refine Or.inr (Or.inr ⟨suggestion, tag, _, rfl, by simpa using htag,
          fresh_allocate t suggestion, ?_⟩)
        show t.allocateTagged suggestion tag = _
        rw [allocateTagged, if_neg htag]
        rfl

/-! ## All requests -/

/-- The table holds what the transcript says, newest first, and in the transcript each name and
each tag is given out once. -/
structure Records (t : NameTable) (exchanges : List Exchange) : Prop where
  allocated : t.allocated = (givenNames exchanges).reverse
  tags : t.tags = (keptNames exchanges).reverse
  namesDiffer : (givenNames exchanges).Nodup
  tagsDiffer : ((keptNames exchanges).map Prod.fst).Nodup
  words : ∀ name ∈ givenNames exchanges,
    Identifier.isKeyword name = false ∧ Identifier.IsWord name

namespace Records

variable {t : NameTable} {exchanges : List Exchange} (h : t.Records exchanges)
include h

theorem mem_allocated_iff (name : String) :
    name ∈ t.allocated ↔ name ∈ givenNames exchanges := by
  rw [h.allocated, List.mem_reverse]

theorem get?_eq_some_iff (tag name : String) :
    t.get? tag = some name ↔ (tag, name) ∈ keptNames exchanges := by
  have hkeys : (t.tags.map Prod.fst).Nodup := by
    rw [h.tags, List.map_reverse, List.nodup_reverse]
    exact h.tagsDiffer
  rw [get?, lookup_eq_some_iff_mem hkeys, h.tags, List.mem_reverse]

theorem isSome_get?_iff (tag : String) :
    (t.get? tag).isSome = true ↔ tag ∈ (keptNames exchanges).map Prod.fst := by
  rw [Option.isSome_iff_exists, List.mem_map]
  constructor
  · rintro ⟨name, hname⟩
    exact ⟨(tag, name), (h.get?_eq_some_iff tag name).mp hname, rfl⟩
  · rintro ⟨⟨tag', name⟩, hmem, rfl⟩
    exact ⟨name, (h.get?_eq_some_iff tag' name).mpr hmem⟩

/-- A name that is fresh for the table is in no answer yet. -/
theorem nodup_concat {name : String} (hfresh : t.Fresh name) :
    (givenNames exchanges ++ [name]).Nodup := by
  have hnew : name ∉ givenNames exchanges :=
    fun hmem => hfresh.new ((h.mem_allocated_iff name).mpr hmem)
  rw [← List.concat_eq_append]
  exact h.namesDiffer.concat hnew

theorem words_concat {name : String} (hfresh : t.Fresh name) :
    ∀ n ∈ givenNames exchanges ++ [name],
      Identifier.isKeyword n = false ∧ Identifier.IsWord n := by
  intro n hn
  rcases List.mem_append.mp hn with hn | hn
  · exact h.words n hn
  · rw [List.mem_singleton.mp hn]
    exact ⟨hfresh.notKeyword, hfresh.isWord⟩

/-- A refusal adds nothing to the table or to the names of the transcript. -/
theorem refuse (request : NameRequest) (refusal : SynthesisError) :
    t.Records (exchanges ++ [(request, .error refusal)]) := by
  have hgiven : givenNames (exchanges ++ [(request, .error refusal)]) = givenNames exchanges := by
    simp [givenNames, Except.toOption]
  have hkept : keptNames (exchanges ++ [(request, .error refusal)]) = keptNames exchanges := by
    simp [keptNames, keptName?]
  constructor <;> simp only [hgiven, hkept]
  · exact h.allocated
  · exact h.tags
  · exact h.namesDiffer
  · exact h.tagsDiffer
  · exact h.words

theorem give {name : String} (hfresh : t.Fresh name) (suggestion : String) :
    Records { t with allocated := name :: t.allocated }
      (exchanges ++ [(.plain suggestion, .ok name)]) := by
  have hgiven : givenNames (exchanges ++ [(.plain suggestion, .ok name)]) =
      givenNames exchanges ++ [name] := by
    simp [givenNames, Except.toOption]
  have hkept : keptNames (exchanges ++ [(.plain suggestion, .ok name)]) =
      keptNames exchanges := by
    simp [keptNames, keptName?]
  constructor <;> simp only [hgiven, hkept]
  · rw [h.allocated, List.reverse_concat]
  · exact h.tags
  · exact h.nodup_concat hfresh
  · exact h.tagsDiffer
  · exact h.words_concat hfresh

theorem keep {name tag : String} (hfresh : t.Fresh name) (htag : t.get? tag = none)
    (suggestion : String) :
    Records { allocated := name :: t.allocated, tags := (tag, name) :: t.tags }
      (exchanges ++ [(.tagged suggestion tag, .ok name)]) := by
  have hgiven : givenNames (exchanges ++ [(.tagged suggestion tag, .ok name)]) =
      givenNames exchanges ++ [name] := by
    simp [givenNames, Except.toOption]
  have hkept : keptNames (exchanges ++ [(.tagged suggestion tag, .ok name)]) =
      keptNames exchanges ++ [(tag, name)] := by
    simp [keptNames, keptName?]
  have hnew : tag ∉ (keptNames exchanges).map Prod.fst := by
    rw [← h.isSome_get?_iff, htag]
    simp
  constructor <;> simp only [hgiven, hkept]
  · rw [h.allocated, List.reverse_concat]
  · rw [h.tags, List.reverse_concat]
  · exact h.nodup_concat hfresh
  · rw [List.map_append, List.map_singleton, ← List.concat_eq_append]
    exact h.tagsDiffer.concat hnew
  · exact h.words_concat hfresh

/-- **One request keeps the table and the transcript together.** -/
theorem serve (request : NameRequest) :
    (t.serve request).2.Records (exchanges ++ [(request, (t.serve request).1)]) := by
  rcases t.serve_cases request with
    ⟨suggestion, tag, rfl, -, hserve⟩ | ⟨suggestion, name, rfl, hfresh, hserve⟩ |
      ⟨suggestion, tag, name, rfl, htag, hfresh, hserve⟩ <;> rw [hserve]
  · exact h.refuse (.tagged suggestion tag) (.tagInUse tag)
  · exact h.give hfresh suggestion
  · exact h.keep hfresh htag suggestion

end Records

/-- **The table and the transcript stay together through all requests.** -/
theorem records_transcript (requests : List NameRequest) :
    (empty.served requests).Records (empty.transcript requests) := by
  induction requests using List.reverseRecOn with
  | nil => exact ⟨rfl, rfl, .nil, .nil, by simp [transcript, givenNames]⟩
  | append_singleton requests request ih =>
      rw [served_concat, transcript_concat]
      exact ih.serve request

/-- **No name is given out twice.** Whatever is asked for, and in whichever order, the names in the
answers differ, are no keywords and are words. They are the names that count as given out. A tag has
the name from the one request for it that was met, and no two tags have the same name; a further
request for the tag is refused and changes nothing. All other requests are met. -/
theorem names_given_once (requests : List NameRequest) :
    let t := empty.served requests
    let exchanges := empty.transcript requests
    exchanges.map Prod.fst = requests ∧
    (givenNames exchanges).Nodup ∧
    (∀ name ∈ givenNames exchanges,
      Identifier.isKeyword name = false ∧ Identifier.IsWord name) ∧
    (∀ name, t.isAllocated name = true ↔ name ∈ givenNames exchanges) ∧
    ((keptNames exchanges).map Prod.fst).Nodup ∧
    ((keptNames exchanges).map Prod.snd).Nodup ∧
    (∀ tag name, t.get? tag = some name ↔ (tag, name) ∈ keptNames exchanges) ∧
    (∀ suggestion, ∃ name, (t.serve (.plain suggestion)).1 = .ok name) ∧
    ∀ suggestion tag,
      tag ∈ (keptNames exchanges).map Prod.fst ∧
          t.serve (.tagged suggestion tag) = (.error (.tagInUse tag), t) ∨
        tag ∉ (keptNames exchanges).map Prod.fst ∧
          ∃ name, (t.serve (.tagged suggestion tag)).1 = .ok name := by
  intro t exchanges
  have h : t.Records exchanges := records_transcript requests
  refine ⟨map_fst_transcript _ requests, h.namesDiffer, h.words, fun name => ?_, h.tagsDiffer,
    (keptNames_sublist exchanges).nodup h.namesDiffer, h.get?_eq_some_iff,
    fun suggestion => ⟨_, rfl⟩, fun suggestion tag => ?_⟩
  · rw [isAllocated, List.contains_iff_mem]
    exact h.mem_allocated_iff name
  · rcases t.serve_cases (.tagged suggestion tag) with
      ⟨_, _, hrequest, htag, hserve⟩ | ⟨_, _, hrequest, -⟩ |
        ⟨_, _, name, hrequest, htag, -, hserve⟩ <;> cases hrequest
    · exact Or.inl ⟨(h.isSome_get?_iff tag).mp htag, hserve⟩
    · refine Or.inr ⟨fun hmem => ?_, name, congrArg Prod.fst hserve⟩
      rw [← h.isSome_get?_iff, htag] at hmem
      cases hmem

/-- Suggestions that become the same word, that are keywords, or that already end in underscores,
and a tag that is used again. -/
def collidingRequests : List NameRequest :=
  [.plain "a-b", .tagged "a_b" "first", .plain "fun", .tagged "fun_" "second",
    .tagged "other" "first", .plain "1", .plain "", .plain "_"]

theorem names_given_once_collidingRequests :
    givenNames (empty.transcript collidingRequests) =
        ["a_b", "a_b_", "fun_", "fun__", "_1", "_", "__"] ∧
      (givenNames (empty.transcript collidingRequests)).Nodup ∧
      (empty.served collidingRequests).get? "first" = some "a_b_" ∧
      (empty.served collidingRequests).serve (.tagged "third" "first") =
        (.error (.tagInUse "first"), empty.served collidingRequests) := by
  have hkept : keptNames (empty.transcript collidingRequests) =
      [("first", "a_b_"), ("second", "fun__")] := by
    decide +kernel
  obtain ⟨-, hnodup, -, -, -, -, hget, -, hserve⟩ := names_given_once collidingRequests
  refine ⟨by decide +kernel, hnodup, (hget _ _).mpr (by simp [hkept]), ?_⟩
  rcases hserve "third" "first" with ⟨-, hrefused⟩ | ⟨hnew, -⟩
  · exact hrefused
  · simp [hkept] at hnew

end KotlinMeta.NameTable
