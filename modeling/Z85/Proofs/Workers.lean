import Z85.Proofs.Check

namespace Z85.Cli

def Phase.rank : Phase → Nat
  | .waiting => 4
  | .running => 3
  | .returning _ => 2
  | .cancelling => 1
  | .done => 0

theorem Phase.rank_le (ph : Phase) : ph.rank ≤ 4 := by
  cases ph <;> simp [Phase.rank]

theorem Phase.eq_done_of_rank {ph : Phase} (h : ph.rank = 0) : ph = .done := by
  cases ph <;> simp [Phase.rank] at h ⊢

namespace Group

variable {env : Environment} {f : List UInt8 → Except Error (List UInt8)} {paths : List String}
  {g : Group} {i : Nat}

theorem step_of_none (h : g.phases[i]? = none) : step env f paths g i = g := by
  simp only [step, h]

theorem step_of_waiting (h : g.phases[i]? = some .waiting) :
    step env f paths g i =
      { g with phases := g.phases.set i (if g.cancelled then .returning .cancelled else .running) } := by
  simp only [step, h]

theorem step_of_running_error {path : String} {e : CliError} (h : g.phases[i]? = some .running)
    (hp : paths[i]? = some path) (hw : (work env f path).2 = .error e) :
    step env f paths g i =
      { g with phases := g.phases.set i (.returning e), log := g.log ++ (work env f path).1 } := by
  simp only [step, h, hp, hw]

theorem step_of_running_ok {path : String} {out : List UInt8} (h : g.phases[i]? = some .running)
    (hp : paths[i]? = some path) (hw : (work env f path).2 = .ok out) :
    step env f paths g i =
      { g with phases := g.phases.set i .done, slots := g.slots.set i (some out),
               log := g.log ++ (work env f path).1 } := by
  simp only [step, h, hp, hw]

theorem step_of_returning_first {e : CliError} (h : g.phases[i]? = some (.returning e))
    (hf : g.failure = none) :
    step env f paths g i = { g with phases := g.phases.set i .cancelling, failure := some e } := by
  simp only [step, h, hf]

theorem step_of_returning_later {e e' : CliError} (h : g.phases[i]? = some (.returning e))
    (hf : g.failure = some e') : step env f paths g i = { g with phases := g.phases.set i .done } := by
  simp only [step, h, hf]

theorem step_of_cancelling (h : g.phases[i]? = some .cancelling) :
    step env f paths g i = { g with phases := g.phases.set i .done, cancelled := true } := by
  simp only [step, h]

theorem step_of_done (h : g.phases[i]? = some .done) : step env f paths g i = g := by
  simp only [step, h]

theorem step_of_running_none (h : g.phases[i]? = some .running) (hp : paths[i]? = none) :
    step env f paths g i = g := by
  simp only [step, h, hp]

/-- What a worker's phase says of its operand's work at `path` and of its slot, given whether the
group has recorded a failure: a returned failure is the work's own or, once a failure is
recorded, the cancelled context's; a worker cancels only after its failure was recorded; and a
worker that is done has its work's result in its slot, unless a failure is recorded. -/
def WorkerInv (env : Environment) (f : List UInt8 → Except Error (List UInt8)) (recorded : Bool)
    (path : String) (slot : Option (List UInt8)) : Phase → Prop
  | .waiting | .running => True
  | .returning e => (work env f path).2 = .error e ∨ (e = .cancelled ∧ recorded = true)
  | .cancelling => recorded = true
  | .done => (∃ out, slot = some out ∧ (work env f path).2 = .ok out) ∨ recorded = true

theorem WorkerInv.mono {r r' : Bool} {path : String} {slot : Option (List UInt8)} {ph : Phase}
    (hr : r = true → r' = true) (h : WorkerInv env f r path slot ph) :
    WorkerInv env f r' path slot ph := by
  cases ph with
  | waiting | running => trivial
  | returning e => exact h.imp id (fun h' ↦ ⟨h'.1, hr h'.2⟩)
  | cancelling => exact hr h
  | done => exact h.imp id hr

/-- What holds of a group at every point of a run. -/
structure Inv (env : Environment) (f : List UInt8 → Except Error (List UInt8))
    (paths : List String) (g : Group) : Prop where
  length_phases : g.phases.length = paths.length
  length_slots : g.slots.length = paths.length
  recorded_of_cancelled : g.cancelled = true → g.failure.isSome = true
  failure_work : ∀ e, g.failure = some e → ∃ path ∈ paths, (work env f path).2 = .error e
  worker : ∀ j path ph, paths[j]? = some path → g.phases[j]? = some ph →
    WorkerInv env f g.failure.isSome path (g.slots.getD j none) ph

theorem Inv.start : Inv env f paths (start paths.length) where
  length_phases := List.length_replicate
  length_slots := List.length_replicate
  recorded_of_cancelled h := by cases h
  failure_work e h := by cases h
  worker j path ph _ hph := by
    have hw : ph = .waiting := List.eq_of_mem_replicate (List.mem_of_getElem? hph)
    subst hw
    trivial

theorem Inv.of_set (hg : Inv env f paths g) {g' : Group} {ph : Phase} {path : String}
    (hpath : paths[i]? = some path) (hphases : g'.phases = g.phases.set i ph)
    (hlen : g'.slots.length = g.slots.length)
    (hslots : ∀ j, j ≠ i → g'.slots.getD j none = g.slots.getD j none)
    (hrec : g.failure.isSome = true → g'.failure.isSome = true)
    (hcancel : g'.cancelled = true → g'.failure.isSome = true)
    (hfail : ∀ e, g'.failure = some e → ∃ p ∈ paths, (work env f p).2 = .error e)
    (hw : WorkerInv env f g'.failure.isSome path (g'.slots.getD i none) ph) :
    Inv env f paths g' where
  length_phases := by rw [hphases, List.length_set, hg.length_phases]
  length_slots := by rw [hlen, hg.length_slots]
  recorded_of_cancelled := hcancel
  failure_work := hfail
  worker j p q hpj hq := by
    by_cases hji : j = i
    · subst hji
      have hlt : j < g.phases.length := hg.length_phases ▸ (List.getElem?_eq_some_iff.mp hpj).1
      rw [hphases, List.getElem?_set_self hlt] at hq
      rw [hpath] at hpj
      cases hpj
      cases hq
      exact hw
    · rw [hphases, List.getElem?_set_ne (Ne.symm hji)] at hq
      rw [hslots j hji]
      exact (hg.worker j p q hpj hq).mono hrec

theorem Inv.lt_length (hg : Inv env f paths g) {ph : Phase} (h : g.phases[i]? = some ph) :
    i < paths.length :=
  hg.length_phases ▸ (List.getElem?_eq_some_iff.mp h).1

theorem Inv.set_phase (hg : Inv env f paths g) {ph : Phase} {path : String} (log : List Entry)
    (hpath : paths[i]? = some path)
    (hw : WorkerInv env f g.failure.isSome path (g.slots.getD i none) ph) :
    Inv env f paths { g with phases := g.phases.set i ph, log := log } :=
  hg.of_set hpath rfl rfl (fun _ _ ↦ rfl) id hg.recorded_of_cancelled hg.failure_work hw

theorem Inv.step (hg : Inv env f paths g) (i : Nat) : Inv env f paths (step env f paths g i) := by
  cases hph : g.phases[i]? with
  | none => rwa [step_of_none hph]
  | some ph =>
    have hi : i < paths.length := hg.lt_length hph
    have hpath : paths[i]? = some paths[i] := List.getElem?_eq_getElem hi
    have hw := hg.worker i paths[i] ph hpath hph
    cases ph with
    | waiting =>
      rw [step_of_waiting hph]
      refine hg.set_phase g.log hpath ?_
      by_cases hc : g.cancelled = true
      · -- a worker that finds the context cancelled returns that failure, recorded already
        rw [if_pos hc]
        exact .inr ⟨rfl, hg.recorded_of_cancelled hc⟩
      · rw [if_neg hc]
        trivial
    | running =>
      cases hr : (work env f paths[i]).2 with
      | error e =>
        rw [step_of_running_error hph hpath hr]
        exact hg.set_phase _ hpath (.inl hr)
      | ok out =>
        rw [step_of_running_ok hph hpath hr]
        have hslot : (g.slots.set i (some out)).getD i none = some out := by
          rw [List.getD_eq_getElem?_getD, List.getElem?_set_self (hg.length_slots ▸ hi)]
          rfl
        refine hg.of_set hpath rfl (List.length_set ..) (fun j hj ↦ ?_) id
          hg.recorded_of_cancelled hg.failure_work (.inl ⟨out, hslot, hr⟩)
        rw [List.getD_eq_getElem?_getD, List.getD_eq_getElem?_getD,
          List.getElem?_set_ne (Ne.symm hj)]
    | returning e =>
      cases hf : g.failure with
      | none =>
        -- the first failure offered is recorded: the worker's own, since the context is live
        have he : (work env f paths[i]).2 = .error e := by
          rcases hw with h | ⟨-, h⟩
          · exact h
          · rw [hf] at h
            cases h
        rw [step_of_returning_first hph hf]
        refine hg.of_set hpath rfl rfl (fun _ _ ↦ rfl) (fun _ ↦ rfl) (fun _ ↦ rfl)
          (fun e' h ↦ ?_) rfl
        cases h
        exact ⟨paths[i], List.getElem_mem hi, he⟩
      | some e' =>
        rw [step_of_returning_later hph hf]
        exact hg.set_phase g.log hpath (.inr (by rw [hf]; rfl))
    | cancelling =>
      rw [step_of_cancelling hph]
      exact hg.of_set hpath rfl rfl (fun _ _ ↦ rfl) id (fun _ ↦ hw) hg.failure_work (.inr hw)
    | done => rwa [step_of_done hph]

theorem run_cons (g : Group) (i : Nat) (sched : List Nat) :
    run env f paths g (i :: sched) = run env f paths (step env f paths g i) sched := rfl

theorem run_append (g : Group) (s t : List Nat) :
    run env f paths g (s ++ t) = run env f paths (run env f paths g s) t :=
  List.foldl_append

theorem Inv.run (hg : Inv env f paths g) (sched : List Nat) :
    Inv env f paths (run env f paths g sched) := by
  induction sched generalizing g with
  | nil => exact hg
  | cons i rest ih =>
    rw [run_cons]
    exact ih (hg.step i)

theorem step_phases (hg : Inv env f paths g) {ph : Phase} (hph : g.phases[i]? = some ph) :
    ∃ ph', (step env f paths g i).phases = g.phases.set i ph' ∧
      (ph'.rank < ph.rank ∨ ph' = .done) := by
  have hi : i < paths.length := hg.lt_length hph
  have hlt : i < g.phases.length := hg.length_phases ▸ hi
  have hpath : paths[i]? = some paths[i] := List.getElem?_eq_getElem hi
  cases ph with
  | waiting =>
    rw [step_of_waiting hph]
    refine ⟨_, rfl, .inl ?_⟩
    split <;> simp [Phase.rank]
  | running =>
    cases hr : (work env f paths[i]).2 with
    | error e =>
      exact ⟨.returning e, by rw [step_of_running_error hph hpath hr], .inl (by simp [Phase.rank])⟩
    | ok out => exact ⟨.done, by rw [step_of_running_ok hph hpath hr], .inr rfl⟩
  | returning e =>
    cases hf : g.failure with
    | none => exact ⟨.cancelling, by rw [step_of_returning_first hph hf], .inl (by simp [Phase.rank])⟩
    | some e' => exact ⟨.done, by rw [step_of_returning_later hph hf], .inr rfl⟩
  | cancelling => exact ⟨.done, by rw [step_of_cancelling hph], .inr rfl⟩
  | done =>
    refine ⟨.done, ?_, .inr rfl⟩
    rw [step_of_done hph]
    refine List.ext_getElem? (fun j ↦ ?_)
    by_cases hj : i = j
    · subst hj
      rw [List.getElem?_set_self hlt, hph]
    · rw [List.getElem?_set_ne hj]

theorem step_phases_ne (hg : Inv env f paths g) {j : Nat} (h : j ≠ i) :
    (step env f paths g i).phases[j]? = g.phases[j]? := by
  cases hph : g.phases[i]? with
  | none => rw [step_of_none hph]
  | some ph =>
    obtain ⟨ph', hset, -⟩ := step_phases hg hph
    rw [hset, List.getElem?_set_ne (Ne.symm h)]

theorem run_phases_ne (hg : Inv env f paths g) {j : Nat} (h : j ≠ i) (k : Nat) :
    (run env f paths g (List.replicate k i)).phases[j]? = g.phases[j]? := by
  induction k generalizing g with
  | zero => rfl
  | succ k ih =>
    rw [List.replicate_succ, run_cons]
    exact (ih (hg.step i)).trans (step_phases_ne hg h)

theorem run_of_done (h : g.phases[i]? = some .done) (k : Nat) :
    run env f paths g (List.replicate k i) = g := by
  induction k with
  | zero => rfl
  | succ k ih => rw [List.replicate_succ, run_cons, step_of_done h, ih]

def rankAt (g : Group) (i : Nat) : Nat :=
  (g.phases[i]?.map Phase.rank).getD 0

theorem run_rankAt (hg : Inv env f paths g) (hi : i < paths.length) (k : Nat) :
    (run env f paths g (List.replicate k i)).phases[i]? = some .done ∨
      rankAt (run env f paths g (List.replicate k i)) i + k ≤ rankAt g i := by
  induction k generalizing g with
  | zero => exact .inr (Nat.le_refl _)
  | succ k ih =>
    have hlt : i < g.phases.length := hg.length_phases ▸ hi
    have hph : g.phases[i]? = some g.phases[i] := List.getElem?_eq_getElem hlt
    rw [List.replicate_succ, run_cons]
    obtain ⟨ph', hset, hrank⟩ := step_phases hg hph
    have hstep : (step env f paths g i).phases[i]? = some ph' := by
      rw [hset, List.getElem?_set_self hlt]
    rcases hrank with hrank | rfl
    · rcases ih (hg.step i) with hdone | hle
      · exact .inl hdone
      · have h1 : rankAt (step env f paths g i) i = ph'.rank := by rw [rankAt, hstep]; rfl
        have h2 : rankAt g i = g.phases[i].rank := by rw [rankAt, hph]; rfl
        rw [h1] at hle
        rw [h2]
        exact .inr (by omega)
    · rw [run_of_done hstep]
      exact .inl hstep

theorem done_of_replicate (hg : Inv env f paths g) (hi : i < paths.length) :
    (run env f paths g (List.replicate 4 i)).phases[i]? = some .done := by
  rcases run_rankAt hg hi 4 with hdone | hle
  · exact hdone
  · have hlt : i < g.phases.length := hg.length_phases ▸ hi
    have h4 : rankAt g i ≤ 4 := by
      rw [rankAt, List.getElem?_eq_getElem hlt]
      exact Phase.rank_le _
    have hlt' : i < (run env f paths g (List.replicate 4 i)).phases.length :=
      ((hg.run _).length_phases) ▸ hi
    have h0 : rankAt (run env f paths g (List.replicate 4 i)) i = 0 := by omega
    rw [rankAt, List.getElem?_eq_getElem hlt'] at h0
    rw [List.getElem?_eq_getElem hlt', Phase.eq_done_of_rank h0]

theorem done_of_completion (hg : Inv env f paths g) {j : Nat} (hj : j < paths.length) :
    (run env f paths g (completion paths.length)).phases[j]? = some .done := by
  suffices h : ∀ m, m ≤ paths.length → ∀ j < m,
      (run env f paths g ((List.range m).flatMap fun i ↦ List.replicate 4 i)).phases[j]? =
        some .done from h _ (Nat.le_refl _) j hj
  intro m
  induction m with
  | zero => intro _ j hj; omega
  | succ m ih =>
    intro hm j hj
    rw [List.range_succ, List.flatMap_append, List.flatMap_singleton, run_append]
    have hg' := hg.run ((List.range m).flatMap fun i ↦ List.replicate 4 i)
    by_cases hjm : j = m
    · subst hjm
      exact done_of_replicate hg' (by omega)
    · rw [run_phases_ne hg' hjm]
      exact ih (by omega) j (by omega)

theorem fromFiles_final (env : Environment) (f : List UInt8 → Except Error (List UInt8))
    (paths : List String) :
    Inv env f paths ((start paths.length).run env f paths
        (env.schedule ++ completion paths.length)) ∧
      ∀ j, j < paths.length → ((start paths.length).run env f paths
        (env.schedule ++ completion paths.length)).phases[j]? = some .done := by
  have hg := (@Inv.start env f paths).run env.schedule
  rw [run_append]
  exact ⟨hg.run _, fun j hj ↦ done_of_completion hg hj⟩

theorem fromFiles_snd : (fromFiles env f paths).2 =
    ((start paths.length).run env f paths (env.schedule ++ completion paths.length)).result :=
  rfl

theorem Inv.slot_of_done (hg : Inv env f paths g) (hf : g.failure = none) {j : Nat}
    (hj : j < paths.length) (hd : g.phases[j]? = some .done) :
    ∃ out, g.slots.getD j none = some out ∧ (work env f paths[j]).2 = .ok out := by
  have hw := hg.worker j paths[j] .done (List.getElem?_eq_getElem hj) hd
  rw [hf] at hw
  rcases hw with hw | hw
  · exact hw
  · cases hw

theorem Inv.result_of_mapM (hg : Inv env f paths g)
    (hdone : ∀ j, j < paths.length → g.phases[j]? = some .done) {outs : List (List UInt8)}
    (h : List.Forall₂ (fun p out ↦ (work env f p).2 = .ok out) paths outs) :
    g.result = .ok outs := by
  have hf : g.failure = none := by
    cases hf : g.failure with
    | none => rfl
    | some e =>
      obtain ⟨p, hp, he⟩ := hg.failure_work e hf
      obtain ⟨j, hj, rfl⟩ := List.mem_iff_getElem.mp hp
      have hj' : j < outs.length := h.length_eq ▸ hj
      have hw : (work env f paths[j]).2 = .ok outs[j] := h.get hj hj'
      rw [hw] at he
      cases he
  simp only [result, hf]
  congr 1
  apply List.ext_getElem
  · rw [List.length_map, hg.length_slots, h.length_eq]
  · intro j h1 h2
    have hj : j < paths.length := h.length_eq ▸ h2
    obtain ⟨out, hslot, hw⟩ := hg.slot_of_done hf hj (hdone j hj)
    have hout : (work env f paths[j]).2 = .ok outs[j] := h.get hj h2
    rw [hw] at hout
    cases hout
    rw [List.getElem_map, ← List.getD_eq_getElem _ none, hslot]
    rfl

theorem Inv.result_of_one_failure (hg : Inv env f paths g)
    (hdone : ∀ j, j < paths.length → g.phases[j]? = some .done) {j : Nat} (hj : j < paths.length)
    {e : CliError} (he : (work env f paths[j]).2 = .error e)
    (hok : ∀ i (hi : i < paths.length), i ≠ j → ∃ out, (work env f paths[i]).2 = .ok out) :
    g.result = .error e := by
  -- the failing worker can only be done once a failure is recorded
  have hrec : g.failure.isSome = true := by
    rcases hg.worker j paths[j] .done (List.getElem?_eq_getElem hj) (hdone j hj) with
      ⟨out, -, hw⟩ | hrec
    · rw [he] at hw
      cases hw
    · exact hrec
  obtain ⟨e', hf⟩ := Option.isSome_iff_exists.mp hrec
  obtain ⟨p, hp, he'⟩ := hg.failure_work e' hf
  obtain ⟨i, hi, rfl⟩ := List.mem_iff_getElem.mp hp
  by_cases hij : i = j
  · subst hij
    rw [he] at he'
    cases he'
    simp only [result, hf]
  · obtain ⟨out, hout⟩ := hok i hi hij
    rw [hout] at he'
    cases he'

end Group

theorem mapM_eq_ok {α β ε : Type} {F : α → Except ε β} {l : List α} {outs : List β}
    (h : l.mapM F = .ok outs) : List.Forall₂ (fun a b ↦ F a = .ok b) l outs := by
  induction l generalizing outs with
  | nil =>
    cases h
    exact .nil
  | cons a l ih =>
    rw [List.mapM_cons] at h
    cases ha : F a with
    | error e =>
      rw [ha] at h
      cases h
    | ok b =>
      cases hl : l.mapM F with
      | error e =>
        rw [ha, hl] at h
        cases h
      | ok bs =>
        rw [ha, hl] at h
        cases h
        exact .cons ha (ih hl)

variable {env : Environment} {f : List UInt8 → Except Error (List UInt8)} {paths : List String}

theorem fromFiles_of_forall₂ {outs : List (List UInt8)}
    (h : List.Forall₂ (fun p out ↦ (work env f p).2 = .ok out) paths outs) :
    (fromFiles env f paths).2 = .ok outs := by
  obtain ⟨hg, hdone⟩ := Group.fromFiles_final env f paths
  rw [Group.fromFiles_snd]
  exact hg.result_of_mapM hdone h

theorem fromFiles_of_one_failure {j : Nat} (hj : j < paths.length) {e : CliError}
    (he : (work env f paths[j]).2 = .error e)
    (hok : ∀ i (hi : i < paths.length), i ≠ j → ∃ out, (work env f paths[i]).2 = .ok out) :
    (fromFiles env f paths).2 = .error e := by
  obtain ⟨hg, hdone⟩ := Group.fromFiles_final env f paths
  rw [Group.fromFiles_snd]
  exact hg.result_of_one_failure hdone hj he hok

theorem work_error {path : String} {e : CliError} (h : (work env f path).2 = .error e) :
    (∃ fe, env.fileAt path = .error fe ∧ e = .openFile fe) ∨
      (∃ data ce, env.fileAt path = .ok data ∧ f data = .error ce ∧ e = .file path ce) := by
  unfold work at h
  cases hr : env.fileAt path with
  | error fe =>
    rw [hr] at h
    cases h
    exact .inl ⟨fe, rfl, rfl⟩
  | ok data =>
    rw [hr] at h
    cases hf : f data with
    | error ce =>
      simp only [hf] at h
      cases h
      exact .inr ⟨data, ce, rfl, hf, rfl⟩
    | ok out =>
      simp only [hf] at h
      cases h

theorem work_of_ok {path : String} {data out : List UInt8} (hr : env.fileAt path = .ok data)
    (hf : f data = .ok out) : (work env f path).2 = .ok out := by
  simp only [work, hr, hf]

theorem forall₂_work {datas outs : List (List UInt8)}
    (hr : List.Forall₂ (fun p d ↦ env.fileAt p = .ok d) paths datas)
    (hf : List.Forall₂ (fun d out ↦ f d = .ok out) datas outs) :
    List.Forall₂ (fun p out ↦ (work env f p).2 = .ok out) paths outs := by
  induction hr generalizing outs with
  | nil =>
    cases hf
    exact .nil
  | cons hd _ ih =>
    cases hf with
    | cons hout htl => exact .cons (work_of_ok hd hout) (ih htl)

theorem run_encode_of_files (flags : Flags) (hp : paths ≠ []) :
    (Invocation.run ⟨flags, .encode paths⟩ env).writes =
        (writeEach [] (fromFiles env (fun d ↦ .ok (encode d)) paths).2 (· ++ [0x0A])).writes ∧
      (Invocation.run ⟨flags, .encode paths⟩ env).ending =
        (writeEach [] (fromFiles env (fun d ↦ .ok (encode d)) paths).2 (· ++ [0x0A])).ending := by
  simp only [Invocation.run, encodeRun, transform, if_neg hp]
  cases (fromFiles env (fun d ↦ .ok (encode d)) paths).2 <;> exact ⟨rfl, rfl⟩

theorem run_decode_of_files (flags : Flags) (newline : Bool) (hp : paths ≠ []) :
    (Invocation.run ⟨flags, .decode newline paths⟩ env).writes =
        (writeEach [] (fromFiles env (fun d ↦ (codecOf flags).1.decode (Text.Blank.trim d)) paths).2
          (fun out ↦ if newline then out ++ [0x0A] else out)).writes ∧
      (Invocation.run ⟨flags, .decode newline paths⟩ env).ending =
        (writeEach [] (fromFiles env (fun d ↦ (codecOf flags).1.decode (Text.Blank.trim d)) paths).2
          (fun out ↦ if newline then out ++ [0x0A] else out)).ending := by
  simp only [Invocation.run, decodeRun, transform, if_neg hp]
  cases (fromFiles env (fun d ↦ (codecOf flags).1.decode (Text.Blank.trim d)) paths).2 <;>
    exact ⟨rfl, rfl⟩

/-- Files are worked in any order with the same outcome, all or nothing, whatever the schedule
of the environment. When every file reads and `f` succeeds on each, the group gives `f`'s
results in the order of the operands; when exactly one operand fails, it gives that operand's
failure: the reading's failure as it is, or the path, `: ` and `f`'s failure. So `encode` writes
the text of each file on a line, in the order of the operands, and `decode` the bytes of each;
and when one operand fails, either writes nothing and ends with that operand's failure. -/
theorem files_in_any_order (flags : Flags) (newline : Bool) (paths : List String)
    (env : Environment) :
    (∀ (f : List UInt8 → Except Error (List UInt8)) datas outs,
      paths.mapM env.fileAt = .ok datas → datas.mapM f = .ok outs →
      (fromFiles env f paths).2 = .ok outs) ∧
    (∀ (f : List UInt8 → Except Error (List UInt8)) j (hj : j < paths.length) e,
      (work env f paths[j]).2 = .error e →
      (∀ i (hi : i < paths.length), i ≠ j → ∃ out, (work env f paths[i]).2 = .ok out) →
      (fromFiles env f paths).2 = .error e ∧
      ((∃ fe, env.fileAt paths[j] = .error fe ∧ e = .openFile fe ∧ e.message = fe.message) ∨
        ∃ data ce, env.fileAt paths[j] = .ok data ∧ f data = .error ce ∧
          e = .file paths[j] ce ∧ e.message = paths[j] ++ ": " ++ ce.message)) ∧
    (∀ datas, paths ≠ [] → paths.mapM env.fileAt = .ok datas →
      (Invocation.run ⟨flags, .encode paths⟩ env).writes =
        datas.map (fun d ↦ encode d ++ [0x0A]) ∧
      (Invocation.run ⟨flags, .encode paths⟩ env).ending = .ok ()) ∧
    (∀ datas outs, paths ≠ [] → paths.mapM env.fileAt = .ok datas →
      datas.mapM (fun d ↦ (codecOf flags).1.decode (Text.Blank.trim d)) = .ok outs →
      (Invocation.run ⟨flags, .decode newline paths⟩ env).writes =
        outs.map (fun out ↦ if newline then out ++ [0x0A] else out) ∧
      (Invocation.run ⟨flags, .decode newline paths⟩ env).ending = .ok ()) ∧
    (∀ j (hj : j < paths.length) e,
      (work env (fun d ↦ .ok (encode d)) paths[j]).2 = .error e →
      (∀ i (hi : i < paths.length), i ≠ j →
        ∃ out, (work env (fun d ↦ .ok (encode d)) paths[i]).2 = .ok out) →
      (Invocation.run ⟨flags, .encode paths⟩ env).writes = [] ∧
      (Invocation.run ⟨flags, .encode paths⟩ env).ending = .error e) ∧
    ∀ j (hj : j < paths.length) e,
      (work env (fun d ↦ (codecOf flags).1.decode (Text.Blank.trim d)) paths[j]).2 = .error e →
      (∀ i (hi : i < paths.length), i ≠ j →
        ∃ out, (work env (fun d ↦ (codecOf flags).1.decode (Text.Blank.trim d)) paths[i]).2 =
          .ok out) →
      (Invocation.run ⟨flags, .decode newline paths⟩ env).writes = [] ∧
      (Invocation.run ⟨flags, .decode newline paths⟩ env).ending = .error e := by
  refine ⟨fun f datas outs hr hf ↦
      fromFiles_of_forall₂ (forall₂_work (mapM_eq_ok hr) (mapM_eq_ok hf)),
    fun f j hj e he hok ↦ ⟨fromFiles_of_one_failure hj he hok, ?_⟩,
    fun datas hp hr ↦ ?_, fun datas outs hp hr hf ↦ ?_, fun j hj e he hok ↦ ?_,
    fun j hj e he hok ↦ ?_⟩
  · rcases work_error he with ⟨fe, hr, rfl⟩ | ⟨data, ce, hr, hf, rfl⟩
    · exact .inl ⟨fe, hr, rfl, rfl⟩
    · exact .inr ⟨data, ce, hr, hf, rfl, rfl⟩
  · have hres : (fromFiles env (fun d ↦ .ok (encode d)) paths).2 = .ok (datas.map encode) :=
      fromFiles_of_forall₂ (forall₂_work (mapM_eq_ok hr)
        (List.forall₂_map_right_iff.mpr (List.forall₂_same.mpr fun _ _ ↦ rfl)))
    obtain ⟨hw, hend⟩ := @run_encode_of_files env paths flags hp
    rw [hw, hend, hres]
    exact ⟨by simp [writeEach], rfl⟩
  · have hres := fromFiles_of_forall₂ (forall₂_work (mapM_eq_ok hr) (mapM_eq_ok hf))
    obtain ⟨hw, hend⟩ := @run_decode_of_files env paths flags newline hp
    rw [hw, hend, hres]
    exact ⟨rfl, rfl⟩
  · have hp : paths ≠ [] := List.ne_nil_of_length_pos (Nat.zero_lt_of_lt hj)
    obtain ⟨hw, hend⟩ := @run_encode_of_files env paths flags hp
    rw [hw, hend, fromFiles_of_one_failure hj he hok]
    exact ⟨rfl, rfl⟩
  · have hp : paths ≠ [] := List.ne_nil_of_length_pos (Nat.zero_lt_of_lt hj)
    obtain ⟨hw, hend⟩ := @run_decode_of_files env paths flags newline hp
    rw [hw, hend, fromFiles_of_one_failure hj he hok]
    exact ⟨rfl, rfl⟩

end Z85.Cli
