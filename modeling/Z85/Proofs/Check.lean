import Z85.Proofs.Commands

namespace Z85

namespace Cli

theorem Run.deliver_of_le {r : Run} {sink : Sink}
    (h : ∀ m, sink.accepts = some m → r.writes.length ≤ m) :
    r.deliver sink = ⟨r.log, r.writes, r.ending⟩ := by
  cases ha : sink.accepts with
  | none => simp only [Run.deliver, ha]
  | some m =>
    have hle := h m ha
    simp only [Run.deliver, ha, if_neg (Nat.not_lt.mpr hle)]

theorem Run.deliver_of_lt {r : Run} {sink : Sink} {m : Nat} (h : sink.accepts = some m)
    (hm : m < r.writes.length) :
    r.deliver sink = ⟨r.log, r.writes.take m, .error (.write sink.failure)⟩ := by
  simp only [Run.deliver, h, if_pos hm]

end Cli

theorem Error.message_ne_ok (e : Error) : e.message ≠ "ok" := by
  intro h
  have hlen := congrArg String.length h
  have hk : 2 ≤ (Error.kindText e.kind).length := by
    cases e.kind <;> decide
  have hok : "ok".length = 2 := by decide
  have hsep : ": ".length = 2 := by decide
  rw [Error.message, String.length_append, String.length_append, hok, hsep] at hlen
  omega

namespace Cli

variable {c : Codec} {t : List UInt8}

theorem checkLine_of_ok (h : c.validate t = .ok ()) :
    checkLine c t = Text.Quoted.bytes t ++ ": " ++ "ok" ++ "\n" := by
  simp only [checkLine, h]

theorem checkLine_of_error {e : Error} (h : c.validate t = .error e) :
    checkLine c t = Text.Quoted.bytes t ++ ": " ++ e.message ++ "\n" := by
  simp only [checkLine, h]

theorem checkLine_eq_ok_iff :
    checkLine c t = Text.Quoted.bytes t ++ ": " ++ "ok" ++ "\n" ↔ (c.validate t).toBool = true := by
  cases hv : c.validate t with
  | ok u => simp [checkLine_of_ok hv, Except.toBool]
  | error e =>
    rw [checkLine_of_error hv]
    simp only [Except.toBool, Bool.false_eq_true, iff_false]
    intro hline
    have hstatus := (String.append_right_inj _).mp ((String.append_left_inj _).mp hline)
    exact Error.message_ne_ok e hstatus

theorem invalidCount_eq_lines (ts : List (List UInt8)) :
    invalidCount c ts =
      (ts.filter fun t ↦ checkLine c t ≠ Text.Quoted.bytes t ++ ": " ++ "ok" ++ "\n").length := by
  rw [invalidCount]
  congr 1
  apply List.filter_congr
  intro t _
  by_cases hb : (c.validate t).toBool = true
  · simp [hb, checkLine_eq_ok_iff.mpr hb]
  · have hl : checkLine c t ≠ Text.Quoted.bytes t ++ ": " ++ "ok" ++ "\n" :=
      fun h' ↦ hb (checkLine_eq_ok_iff.mp h')
    simp [hb, hl]

variable {flags : Flags} {texts : List String} {env : Environment}

theorem run_check_of_inputs {inputs : List (List UInt8)} (h : checkInputs env texts = .ok inputs) :
    (Invocation.run ⟨flags, .check texts⟩ env).writes =
        inputs.map (fun t ↦ Text.Utf8.bytes (checkLine (codecOf flags).1 t)) ∧
      (Invocation.run ⟨flags, .check texts⟩ env).ending =
        if invalidCount (codecOf flags).1 inputs = 0 then .ok ()
        else .error (.invalid (invalidCount (codecOf flags).1 inputs) inputs.length) := by
  simp [Invocation.run, checkRun, h]

theorem run_check_of_error {e : CliError} (h : checkInputs env texts = .error e) :
    (Invocation.run ⟨flags, .check texts⟩ env).writes = [] ∧
      (Invocation.run ⟨flags, .check texts⟩ env).ending = .error e := by
  simp [Invocation.run, checkRun, h]

theorem checkInputs_error_message {e : CliError} (h : checkInputs env texts = .error e) :
    ∃ reason, e.message = "reading input: " ++ reason := by
  unfold checkInputs at h
  split at h
  · split at h
    · cases h
      exact ⟨_, rfl⟩
    · split at h
      · cases h
      · cases h
        exact ⟨"bufio.Scanner: token too long", by decide⟩
  · cases h

end Cli

open Cli in
/-- `check` reports each text in order, and its count agrees with the reports. A text's line is
the text quoted, `: `, then `ok` or the message of the codec the flags pick, and a line feed;
the texts that cannot be read are those whose line does not say `ok`. When every write succeeds,
the writes are the lines of the texts in order, and the command fails, with
`k of n inputs are not valid Z85`, exactly when k texts of the n cannot be read and k is at least
one. When the sink refuses write `m + 1`, the writes are the first `m` lines and the command
fails with the sink's failure. When the texts cannot be read from the standard input, nothing is
written and the failure says `reading input: ` and why. -/
theorem check_reports_each_input (flags : Flags) (texts : List String) (env : Environment) :
    (∀ t, (codecOf flags).1.validate t = .ok () →
      checkLine (codecOf flags).1 t = Text.Quoted.bytes t ++ ": " ++ "ok" ++ "\n") ∧
    (∀ t e, (codecOf flags).1.validate t = .error e →
      checkLine (codecOf flags).1 t = Text.Quoted.bytes t ++ ": " ++ e.message ++ "\n") ∧
    (∀ k n, (CliError.invalid k n).message =
      toString k ++ " of " ++ toString n ++ " inputs are not valid Z85") ∧
    (∀ inputs, checkInputs env texts = .ok inputs →
      invalidCount (codecOf flags).1 inputs = (inputs.filter fun t ↦
        checkLine (codecOf flags).1 t ≠ Text.Quoted.bytes t ++ ": " ++ "ok" ++ "\n").length ∧
      (∀ sink : Sink, (∀ m, sink.accepts = some m → inputs.length ≤ m) →
        ((Invocation.run ⟨flags, .check texts⟩ env).deliver sink).written =
          inputs.map (fun t ↦ Text.Utf8.bytes (checkLine (codecOf flags).1 t)) ∧
        ((Invocation.run ⟨flags, .check texts⟩ env).deliver sink).result =
          if invalidCount (codecOf flags).1 inputs = 0 then .ok ()
          else .error (.invalid (invalidCount (codecOf flags).1 inputs) inputs.length)) ∧
      ∀ (sink : Sink) (m : Nat), sink.accepts = some m → m < inputs.length →
        ((Invocation.run ⟨flags, .check texts⟩ env).deliver sink).written =
          (inputs.take m).map (fun t ↦ Text.Utf8.bytes (checkLine (codecOf flags).1 t)) ∧
        ((Invocation.run ⟨flags, .check texts⟩ env).deliver sink).result =
          .error (.write sink.failure)) ∧
    ∀ e, checkInputs env texts = .error e → ∀ sink : Sink,
      ((Invocation.run ⟨flags, .check texts⟩ env).deliver sink).written = [] ∧
      ((Invocation.run ⟨flags, .check texts⟩ env).deliver sink).result = .error e ∧
      ∃ reason, e.message = "reading input: " ++ reason := by
  refine ⟨fun t h ↦ checkLine_of_ok h, fun t e h ↦ checkLine_of_error h, fun k n ↦ rfl,
    fun inputs h ↦ ⟨invalidCount_eq_lines inputs, fun sink hall ↦ ?_, fun sink m ha hm ↦ ?_⟩,
    fun e h sink ↦ ?_⟩
  · obtain ⟨hw, he⟩ := @run_check_of_inputs flags _ _ _ h
    rw [Run.deliver_of_le (hw ▸ (by simpa using hall))]
    exact ⟨hw, he⟩
  · obtain ⟨hw, -⟩ := @run_check_of_inputs flags _ _ _ h
    rw [Run.deliver_of_lt ha (by simpa [hw] using hm)]
    exact ⟨by rw [hw, List.map_take], rfl⟩
  · obtain ⟨hw, he⟩ := @run_check_of_error flags _ _ _ h
    rw [Run.deliver_of_le (by simp [hw])]
    exact ⟨hw, he, checkInputs_error_message h⟩

end Z85
