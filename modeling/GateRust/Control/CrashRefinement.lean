/-
# The closures on the disk and the store

The store of the control plane replaces its file in one step.  On the disk a closure does so by
several calls, of which only the rename is seen by other programs.  Between two crashes a run on the
disk is therefore a run of the store, with the same requests and the same file: what comes before
the rename is no step of the store, the rename is the replacement, and a call that fails before it
is a replacement that fails.
-/
import GateRust.Control.CrashSafety
import GateRust.Control.StoreInvariant

namespace GateRust.Control

open Machine

variable {C : Type}

namespace ConfigDisk

/-! ## The relation -/

/-- The closure in the store. -/
def ClosureRel (f : ConfigFormat C) (call : WriteCall C) (closure : BlockingClosure C) : Prop :=
  match text? call.phase with
  | some text => ∃ config, closure = .loaded call.base config ∧
      f.mutated call.mutate call.base = .ok config ∧ f.toToml config = .ok text
  | none =>
    if call.phase = .queued then closure = .queued else ∃ result, closure = .finished result

/-- The request in the store. -/
structure CallRel (f : ConfigFormat C) (call : WriteCall C) (r : Request C) : Prop where
  mutate : r.mutate = call.mutate
  future : r.future = if call.holdsPermit then .holding else .ended
  closure : ClosureRel f call r.closure

/-- The store sees the file of the disk, and has its requests. -/
structure Rel (f : ConfigFormat C) (d : ConfigDisk C) (s : ConfigStore C) : Prop where
  file : s.file = d.disk.read .config
  length : s.requests.length = d.calls.length
  request : ∀ (i : ℕ) (call : WriteCall C), d.calls[i]? = some call →
    ∃ r, s.requests[i]? = some r ∧ CallRel f call r
  writer : ∀ (i : ℕ) (call : WriteCall C), d.calls[i]? = some call → call.holdsPermit = true →
    s.writer = some i
  holder : ∀ i, s.writer = some i → ∃ call, d.calls[i]? = some call ∧ call.holdsPermit = true

variable {f : ConfigFormat C} {initial : Option String} {d d' : ConfigDisk C} {s : ConfigStore C}
  {i : ℕ} {call call' : WriteCall C} {r r' : Request C} {disk : CrashDisk FileName String}
  {begun acknowledged : List (Mutation C)}

/-- After a crash the store has no request, and reads what is left. -/
lemma rel_crash (f : ConfigFormat C) (disk : CrashDisk FileName String) :
    Rel f ⟨disk, [], begun, acknowledged⟩ (.start (disk.read .config)) where
  file := rfl
  length := rfl
  request i call hcall := by cases hcall
  writer i call hcall := by cases hcall
  holder i hwriter := by cases hwriter

lemma ClosureRel.loaded {closure : BlockingClosure C} {text : String}
    (h : ClosureRel f call closure) (htext : text? call.phase = some text) :
    ∃ config, closure = .loaded call.base config ∧ f.mutated call.mutate call.base = .ok config ∧
      f.toToml config = .ok text := by
  rw [ClosureRel, htext] at h
  exact h

lemma ClosureRel.finished {closure : BlockingClosure C} {phase : WritePhase}
    (h : ClosureRel f call closure) (hphase : call.phase = phase) (htext : text? phase = none)
    (hqueued : phase ≠ .queued) : ∃ result, closure = .finished result := by
  rw [ClosureRel, hphase, htext] at h
  simpa only [hqueued, if_false] using h

lemma ClosureRel.withPhase {closure : BlockingClosure C} {phase : WritePhase} {text : String}
    (h : ClosureRel f call closure) (htext : text? call.phase = some text)
    (htext' : text? phase = some text) : ClosureRel f { call with phase } closure := by
  rw [ClosureRel, htext']
  exact h.loaded htext

lemma get_set_of_ne {α : Type} {xs : List α} {x y : α} {j : ℕ} (hne : j ≠ i)
    (h : (xs.set i x)[j]? = some y) : xs[j]? = some y := by
  rwa [List.getElem?_set_ne (Ne.symm hne)] at h

lemma holdsPermit_withPhase {phase : WritePhase} {text : String}
    (htext : text? call.phase = some text) (hphase : phase ≠ .returned) :
    WriteCall.holdsPermit { call with phase } = call.holdsPermit := by
  have hrunning : call.phase ≠ .returned := by
    intro heq
    rw [heq] at htext
    cases htext
  simp [WriteCall.holdsPermit, hphase, hrunning]

/-- One request goes on, and keeps the permit or gives it back. -/
lemma Rel.update {file : Option String} {writer : Option ℕ} {commits : List (Commit C)}
    (h : Rel f d s) (hcall : d.calls[i]? = some call) (hrel : CallRel f call' r')
    (hfile : file = disk.read .config)
    (hwriter : call'.holdsPermit = call.holdsPermit ∧ writer = s.writer ∨
      call.holdsPermit = true ∧ call'.holdsPermit = false ∧ writer = none) :
    Rel f ⟨disk, d.calls.set i call', begun, acknowledged⟩
      ⟨file, writer, s.requests.set i r', commits⟩ := by
  have hlt : i < d.calls.length := (List.getElem?_eq_some_iff.mp hcall).1
  refine ⟨hfile, ?_, fun j x hx => ?_, fun j x hx hholds => ?_, fun j hj => ?_⟩
  · rw [List.length_set, List.length_set]
    exact h.length
  · by_cases hji : j = i
    · subst hji
      rw [List.getElem?_set_self hlt] at hx
      obtain rfl := Option.some.inj hx
      exact ⟨r', List.getElem?_set_self (h.length ▸ hlt), hrel⟩
    · obtain ⟨r, hr, hold⟩ := h.request j x (get_set_of_ne hji hx)
      exact ⟨r, by rwa [List.getElem?_set_ne (Ne.symm hji)], hold⟩
  · by_cases hji : j = i
    · subst hji
      rw [List.getElem?_set_self hlt] at hx
      obtain rfl := Option.some.inj hx
      rcases hwriter with ⟨hsame, rfl⟩ | ⟨-, hnone, -⟩
      · exact h.writer j call hcall (hsame ▸ hholds)
      · rw [hnone] at hholds
        cases hholds
    · have hj := h.writer j x (get_set_of_ne hji hx) hholds
      rcases hwriter with ⟨-, rfl⟩ | ⟨hreleased, -, -⟩
      · exact hj
      · exact absurd (Option.some.inj (hj.symm.trans (h.writer i call hcall hreleased))) hji
  · rcases hwriter with ⟨hsame, rfl⟩ | ⟨-, -, rfl⟩
    · obtain ⟨x, hx, hholds⟩ := h.holder j hj
      by_cases hji : j = i
      · subst hji
        obtain rfl := Option.some.inj (hx.symm.trans hcall)
        exact ⟨call', List.getElem?_set_self hlt, hsame ▸ hholds⟩
      · exact ⟨x, by rwa [List.getElem?_set_ne (Ne.symm hji)], hholds⟩
    · cases hj

/-- A step on the disk that the store does not see. -/
lemma Rel.stutter (h : Rel f d s) (hcall : d.calls[i]? = some call)
    (hpermit : call'.holdsPermit = call.holdsPermit) (hmutate : call'.mutate = call.mutate)
    (hclosure : ∀ closure, ClosureRel f call closure → ClosureRel f call' closure)
    (hread : disk.read .config = d.disk.read .config) :
    Rel f ⟨disk, d.calls.set i call', begun, acknowledged⟩ s := by
  obtain ⟨r, hr, hrel⟩ := h.request i call hcall
  have hrel' : CallRel f call' r :=
    ⟨hrel.mutate.trans hmutate.symm, by rw [hpermit]; exact hrel.future, hclosure _ hrel.closure⟩
  have hsame : s.requests.set i r = s.requests := by
    obtain ⟨hlt, rfl⟩ := List.getElem?_eq_some_iff.mp hr
    exact List.set_getElem_self hlt
  have hupdate : Rel f ⟨disk, d.calls.set i call', begun, acknowledged⟩
      ⟨s.file, s.writer, s.requests.set i r, s.commits⟩ :=
    h.update hcall hrel' (h.file.trans hread.symm) (.inl ⟨hpermit, rfl⟩)
  rwa [hsame] at hupdate

/-! ## The steps of the store -/

/-- The closure returns, and the future with it if there is one. -/
lemma Rel.finish (h : Rel f d s) (hcall : d.calls[i]? = some call)
    (hfinished : ∀ closure, ClosureRel f call closure → ∃ result, closure = .finished result)
    (hread : disk.read .config = d.disk.read .config) :
    ∃ s', Reach (ConfigStore.step f) ConfigStore.NoOverlap s s' ∧
      Rel f ⟨disk, d.calls.set i { call with phase := .returned }, begun, acknowledged⟩ s' := by
  cases hholds : call.holdsPermit with
  | false =>
    refine ⟨s, .init, h.stutter hcall ?_ rfl hfinished hread⟩
    rw [hholds]
    simp [WriteCall.holdsPermit]
  | true =>
    obtain ⟨⟨mutate, future, closure⟩, hr, hmutate, hfuture, hclosure⟩ := h.request i call hcall
    obtain ⟨result, rfl⟩ := hfinished closure hclosure
    rw [hholds] at hfuture
    obtain rfl : future = .holding := hfuture
    have hstep : s.step f (.complete i) =
        some (s.endFuture i ⟨mutate, .holding, .finished result⟩) := by
      simp only [ConfigStore.step, hr]
    refine ⟨_, Reach.init.next (e := .complete i) rfl hstep, ?_⟩
    refine h.update hcall ⟨hmutate, ?_, result, rfl⟩ (h.file.trans hread.symm)
      (.inr ⟨hholds, ?_, rfl⟩)
    · simp [WriteCall.holdsPermit]
    · simp [WriteCall.holdsPermit]

/-- A call that fails before the rename is a replacement that fails. -/
lemma Rel.fail (h : Rel f d s) (hcall : d.calls[i]? = some call)
    {text : String} (htext : text? call.phase = some text) (random : UInt64)
    (hread : disk.read .config = d.disk.read .config) :
    ∃ s', Reach (ConfigStore.step f) ConfigStore.NoOverlap s s' ∧
      Rel f { d.setPhase i call (.failed random) with disk } s' := by
  obtain ⟨⟨mutate, future, closure⟩, hr, hmutate, hfuture, hclosure⟩ := h.request i call hcall
  obtain ⟨config, rfl, -⟩ := hclosure.loaded htext
  obtain ⟨error, hstep⟩ : ∃ error, s.step f (.commit i (.error "") (.ok ())) =
      some (s.setRequest i ⟨mutate, future, .finished (.error error)⟩) := by
    cases hvalidated : f.validated config with
    | ok written =>
      exact ⟨.writeRuntimeConfig "", by simp only [ConfigStore.step, hr, hvalidated]⟩
    | error error => exact ⟨error, by simp only [ConfigStore.step, hr, hvalidated]⟩
  have hpermit : WriteCall.holdsPermit { call with phase := .failed random } = call.holdsPermit :=
    holdsPermit_withPhase htext (by rintro ⟨⟩)
  refine ⟨_, Reach.init.next (e := .commit i (.error "") (.ok ())) rfl hstep, ?_⟩
  exact h.update hcall ⟨hmutate, by rw [hpermit]; exact hfuture, _, rfl⟩
    (h.file.trans hread.symm) (.inl ⟨hpermit, rfl⟩)

lemma Rel.spawn (h : Rel f d s) (hfree : ∀ call ∈ d.calls, call.holdsPermit = false)
    (mutate : Mutation C) :
    ∃ s', Reach (ConfigStore.step f) ConfigStore.NoOverlap s s' ∧
      Rel f { d with calls := d.calls ++ [⟨mutate, none, .queued, false⟩] } s' := by
  have hfree' : s.writer = none := by
    cases hwriter : s.writer with
    | none => rfl
    | some i =>
      obtain ⟨call, hcall, hholds⟩ := h.holder i hwriter
      rw [hfree call (List.mem_of_getElem? hcall)] at hholds
      cases hholds
  have hrequest : s.step f (.request mutate) =
      some { s with requests := s.requests ++ [⟨mutate, .waiting, .notSpawned⟩] } := rfl
  have hacquire : ConfigStore.step f
      { s with requests := s.requests ++ [⟨mutate, .waiting, .notSpawned⟩] }
        (.acquire s.requests.length) =
      some { s with
        requests := s.requests ++ [⟨mutate, .holding, .queued⟩]
        writer := some s.requests.length } := by
    simp [ConfigStore.step, hfree', ConfigStore.setRequest]
  have hwaiting : Reach (ConfigStore.step f) ConfigStore.NoOverlap s
      { s with requests := s.requests ++ [⟨mutate, .waiting, .notSpawned⟩] } :=
    Reach.init.next (e := .request mutate) rfl hrequest
  have hreach : Reach (ConfigStore.step f) ConfigStore.NoOverlap s { s with
      requests := s.requests ++ [⟨mutate, .holding, .queued⟩]
      writer := some s.requests.length } :=
    hwaiting.next (e := .acquire s.requests.length) rfl hacquire
  have hlt : ∀ {i : ℕ} {x : WriteCall C}, d.calls[i]? = some x → i < d.calls.length :=
    fun hx => (List.getElem?_eq_some_iff.mp hx).1
  refine ⟨_, hreach, h.file, ?_, fun i x hx => ?_, fun i x hx hholds => ?_, fun i hi => ?_⟩
  · rw [List.length_append, List.length_append, h.length]
    rfl
  · rcases call_snoc hx with ⟨rfl, rfl⟩ | hold
    · exact ⟨⟨mutate, .holding, .queued⟩, h.length ▸ List.getElem?_concat_length, rfl, rfl, rfl⟩
    · obtain ⟨r, hr, hrel⟩ := h.request i x hold
      exact ⟨r, by rwa [List.getElem?_append_left (h.length ▸ hlt hold)], hrel⟩
  · rcases call_snoc hx with ⟨rfl, rfl⟩ | hold
    · rw [h.length]
    · rw [hfree x (List.mem_of_getElem? hold)] at hholds
      cases hholds
  · obtain rfl : s.requests.length = i := Option.some.inj hi
    rw [h.length]
    exact ⟨_, List.getElem?_concat_length, rfl⟩

lemma Rel.drop (h : Rel f d s) (hcall : d.calls[i]? = some call)
    (hholds : call.holdsPermit = true) :
    ∃ s', Reach (ConfigStore.step f) ConfigStore.NoOverlap s s' ∧
      Rel f (d.setCall i { call with dropped := true }) s' := by
  obtain ⟨r, hr, hrel⟩ := h.request i call hcall
  have hfuture : r.future = .holding := by rw [hrel.future, if_pos hholds]
  have hstep : s.step f (.drop i) = some (s.endFuture i r) := by
    simp [ConfigStore.step, hr, hfuture]
  refine ⟨_, Reach.init.next (e := .drop i) rfl hstep, ?_⟩
  rw [ConfigStore.endFuture, if_pos hfuture]
  exact h.update hcall ⟨hrel.mutate, rfl, hrel.closure⟩ h.file (.inr ⟨hholds, rfl, rfl⟩)

/-- A closure that does not run is not in progress in the store. -/
lemma ClosureRel.not_inProgress {closure : BlockingClosure C} (h : ClosureRel f call closure)
    (hidle : call.phase.isRunning = false) : closure.inProgress = false := by
  have htext : text? call.phase = none := by
    cases hphase : call.phase <;> rw [hphase] at hidle <;> first | rfl | cases hidle
  rw [ClosureRel, htext] at h
  dsimp only at h
  split at h
  · rw [h]
    rfl
  · obtain ⟨result, rfl⟩ := h
    rfl

lemma Rel.noOverlap (h : Rel f d s) (hidle : ∀ call ∈ d.calls, call.phase.isRunning = false) :
    s.NoOverlap (.load i) := by
  simp only [ConfigStore.NoOverlap, ConfigStore.noOverlap, List.all_eq_true, List.mem_range]
  intro j hj
  have hx : d.calls[j]? = some (d.calls.get ⟨j, h.length ▸ hj⟩) := List.getElem?_eq_getElem _
  obtain ⟨r', hr', hrel'⟩ := h.request j _ hx
  have hclosure := hrel'.closure.not_inProgress (hidle _ (List.get_mem _ _))
  split
  case h_1 r x _ hr =>
    obtain rfl := Option.some.inj (hr'.symm.trans hr)
    simp [hclosure]
  case h_2 => rfl

lemma readFile_of_ok {text : String}
    (h : prepare f call.mutate (d.disk.read .config) = .ok text) :
    d.readFile f i call = ⟨d.disk,
      d.calls.set i { call with base := d.disk.read .config, phase := .serialized text },
      d.begun ++ [call.mutate], d.acknowledged⟩ := by
  simp only [ConfigDisk.readFile, h]
  rfl

lemma readFile_of_error {error : ControlError}
    (h : prepare f call.mutate (d.disk.read .config) = .error error) :
    d.readFile f i call = ⟨d.disk,
      d.calls.set i { call with base := d.disk.read .config, phase := .returned },
      d.begun ++ [call.mutate], d.acknowledged⟩ := by
  simp only [ConfigDisk.readFile, h]
  rfl

/-- The closure fails before it writes anything, and returns. -/
lemma Rel.readFails {s₁ : ConfigStore C} {future : RequestFuture} {base : Option String}
    {error : ControlError} (h : Rel f d s) (hcall : d.calls[i]? = some call)
    (hphase : call.phase = .queued)
    (hfuture : future = if call.holdsPermit then .holding else .ended)
    (hreach : Reach (ConfigStore.step f) ConfigStore.NoOverlap s s₁)
    (hs₁ : s₁ = s.setRequest i ⟨call.mutate, future, .finished (.error error)⟩) :
    ∃ s', Reach (ConfigStore.step f) ConfigStore.NoOverlap s s' ∧
      Rel f ⟨d.disk, d.calls.set i { call with base, phase := .returned }, begun, acknowledged⟩
        s' := by
  subst hs₁
  have hpermit : WriteCall.holdsPermit { call with base, phase := .failed 0 } =
      call.holdsPermit := by
    simp [WriteCall.holdsPermit, hphase]
  have hrel : Rel f
      ⟨d.disk, d.calls.set i { call with base, phase := .failed 0 }, begun, acknowledged⟩
      (s.setRequest i ⟨call.mutate, future, .finished (.error error)⟩) :=
    h.update hcall ⟨rfl, by rw [hpermit]; exact hfuture, _, rfl⟩ h.file (.inl ⟨hpermit, rfl⟩)
  have hnew : (d.calls.set i { call with base, phase := .failed 0 })[i]? =
      some { call with base, phase := .failed 0 } :=
    List.getElem?_set_self (List.getElem?_eq_some_iff.mp hcall).1
  obtain ⟨s', hreach', hrel'⟩ : ∃ s', Reach (ConfigStore.step f) ConfigStore.NoOverlap _ s' ∧
      Rel f ⟨d.disk, (d.calls.set i _).set i _, begun, acknowledged⟩ s' :=
    hrel.finish hnew (fun _ h => h) rfl
  refine ⟨s', hreach.trans hreach', ?_⟩
  rwa [List.set_set] at hrel'

lemma Rel.readFile (h : Rel f d s) (hcall : d.calls[i]? = some call)
    (hphase : call.phase = .queued)
    (hidle : ∀ call ∈ d.calls, call.phase.isRunning = false) :
    ∃ s', Reach (ConfigStore.step f) ConfigStore.NoOverlap s s' ∧
      Rel f (d.readFile f i call) s' := by
  obtain ⟨⟨mutate, future, closure⟩, hr, hmutate, hfuture, hclosure⟩ := h.request i call hcall
  rw [ClosureRel, hphase] at hclosure
  dsimp only [text?, if_true] at hmutate hclosure hfuture
  simp only [if_true] at hclosure
  subst hmutate hclosure
  have hno : s.NoOverlap (.load i) := h.noOverlap hidle
  have hlt : i < s.requests.length := (List.getElem?_eq_some_iff.mp hr).1
  cases hmutated : f.mutated call.mutate s.file with
  | error error =>
    have hload : s.step f (.load i) =
        some (s.setRequest i ⟨call.mutate, future, .finished (.error error)⟩) := by
      simp only [ConfigStore.step, hr, hmutated]
    rw [h.file] at hmutated
    rw [readFile_of_error (by rw [prepare, hmutated]; rfl)]
    exact h.readFails hcall hphase hfuture (Reach.init.next hno hload) rfl
  | ok config =>
    have hload : s.step f (.load i) =
        some (s.setRequest i ⟨call.mutate, future, .loaded s.file config⟩) := by
      simp only [ConfigStore.step, hr, hmutated]
    have hreach := Reach.init.next hno hload
    rw [h.file] at hmutated hreach
    cases htoml : f.toToml config with
    | ok text =>
      have hprepare : prepare f call.mutate (d.disk.read .config) = .ok text := by
        rw [prepare, hmutated, Except.bind, htoml]
        rfl
      rw [readFile_of_ok hprepare]
      have hpermit : WriteCall.holdsPermit
          { call with base := d.disk.read .config, phase := .serialized text } =
          call.holdsPermit := by
        simp [WriteCall.holdsPermit, hphase]
      exact ⟨_, hreach, h.update hcall ⟨rfl, by rw [hpermit]; exact hfuture, config, rfl, hmutated,
        htoml⟩ h.file (.inl ⟨hpermit, rfl⟩)⟩
    | error error =>
      -- the store finds that it cannot be written when it replaces the file
      have hcommit : ConfigStore.step f
          (s.setRequest i ⟨call.mutate, future, .loaded (d.disk.read .config) config⟩)
          (.commit i (.ok ()) (.ok ())) = some (s.setRequest i
            ⟨call.mutate, future, .finished (.error (.writeRuntimeConfig error))⟩) := by
        simp [ConfigStore.step, ConfigStore.setRequest, List.getElem?_set_self hlt,
          ConfigFormat.validated, htoml, Except.mapError, Except.bind]
      rw [readFile_of_error (by rw [prepare, hmutated, Except.bind, htoml]; rfl)]
      exact h.readFails hcall hphase hfuture (hreach.next (e := .commit i (.ok ()) (.ok ())) rfl
        hcommit) rfl

/-! ## The calls of the operating system -/

/-- A call before the rename that succeeds. -/
lemma Rel.advance {phase : WritePhase} {text : String} (h : Rel f d s)
    (hcall : d.calls[i]? = some call) (htext : text? call.phase = some text)
    (htext' : text? phase = some text) (hread : disk.read .config = d.disk.read .config) :
    Rel f { d.setPhase i call phase with disk } s := by
  refine h.stutter hcall (holdsPermit_withPhase htext ?_) rfl
    (fun _ hclosure => hclosure.withPhase htext htext') hread
  rintro rfl
  cases htext'

/-- The directory is synced or not, and the text is in the file. -/
lemma Rel.settle {phase : WritePhase} {random : UInt64} {text : String} (h : Rel f d s)
    (hcall : d.calls[i]? = some call) (hphase : call.phase = .renamed random text)
    (htext : text? phase = none) (hqueued : phase ≠ .queued) (hreturned : phase ≠ .returned)
    (hread : disk.read .config = d.disk.read .config) :
    Rel f { d.setPhase i call phase with disk } s := by
  refine h.stutter hcall ?_ rfl (fun closure hclosure => ?_) hread
  · simp [WriteCall.holdsPermit, hreturned, hphase]
  · rw [ClosureRel, htext]
    simp only [hqueued, if_false]
    exact hclosure.finished hphase rfl (by rintro ⟨⟩)

/-- The rename is the replacement in the store. -/
lemma Rel.rename {random : UInt64} {file : ℕ} {text : String} (h : Rel f d s)
    (hcall : d.calls[i]? = some call) (hphase : call.phase = .validated random file text)
    (happly : f.apply call.mutate call.base = .ok text)
    (hread : (d.disk.rename (.temporary random) .config).read .config = some text) :
    ∃ s', Reach (ConfigStore.step f) ConfigStore.NoOverlap s s' ∧
      Rel f { d.setPhase i call (.renamed random text) with
        disk := d.disk.rename (.temporary random) .config } s' := by
  have htext : text? call.phase = some text := by rw [hphase]; rfl
  obtain ⟨⟨mutate, future, closure⟩, hr, hmutate, hfuture, hclosure⟩ := h.request i call hcall
  obtain ⟨config, rfl, hmutated, -⟩ := hclosure.loaded htext
  obtain ⟨stored, hvalidated⟩ : ∃ stored, f.validated config = .ok (text, stored) := by
    rw [ConfigFormat.apply, hmutated] at happly
    cases hvalidated : f.validated config with
    | error error => simp [Except.bind, Except.map, hvalidated] at happly
    | ok written =>
      obtain rfl : written.1 = text := by simpa [Except.bind, Except.map, hvalidated] using happly
      exact ⟨written.2, rfl⟩
  have hstep : s.step f (.commit i (.ok ()) (.ok ())) =
      some ((s.replace mutate call.base text).setRequest i
        ⟨mutate, future, .finished (.ok stored)⟩) := by
    simp only [ConfigStore.step, hr, hvalidated]
    rfl
  have hpermit : WriteCall.holdsPermit { call with phase := .renamed random text } =
      call.holdsPermit := holdsPermit_withPhase htext (by rintro ⟨⟩)
  refine ⟨_, Reach.init.next (e := .commit i (.ok ()) (.ok ())) rfl hstep, ?_⟩
  exact h.update hcall ⟨hmutate, by rw [hpermit]; exact hfuture, _, rfl⟩ hread.symm
    (.inl ⟨hpermit, rfl⟩)

lemma Rel.moves {e : CallEvent} (h : Rel f d s) (hdurable : Durable f initial d)
    (hok : d.Alone (.call i e)) (hcall : d.calls[i]? = some call) (hmoves : d.Moves f i call e d') :
    ∃ s', Reach (ConfigStore.step f) ConfigStore.NoOverlap s s' ∧ Rel f d' s' := by
  cases hmoves with
  | read hphase => exact h.readFile hcall hphase hok
  | create hphase =>
    exact ⟨s, .init, h.advance hcall (congrArg text? hphase) rfl
      (hdurable.settled.read_create (temporary_ne _))⟩
  | write hphase =>
    obtain ⟨-, hfresh⟩ := hdurable.phaseOk hcall hphase rfl
    exact ⟨s, .init, h.advance hcall (congrArg text? hphase) rfl
      (CrashDisk.read_write_of_not_possible hfresh.apart)⟩
  | writeFails hphase =>
    obtain ⟨-, hfresh⟩ := hdurable.phaseOk hcall hphase rfl
    exact h.fail hcall (congrArg text? hphase) _
      (CrashDisk.read_write_of_not_possible hfresh.apart)
  | syncFile hphase =>
    exact ⟨s, .init, h.advance hcall (congrArg text? hphase) rfl CrashDisk.read_syncFile⟩
  | readBack hphase => exact ⟨s, .init, h.advance hcall (congrArg text? hphase) rfl rfl⟩
  | rename hphase =>
    obtain ⟨happly, hfresh, hcontent, -⟩ := hdurable.phaseOk hcall hphase rfl
    exact h.rename hcall hphase happly (hfresh.read_rename hcontent)
  | fails htext => exact h.fail hcall htext _ rfl
  | syncDir hphase =>
    exact ⟨s, .init, h.settle hcall hphase rfl (by rintro ⟨⟩) (by rintro ⟨⟩)
      CrashDisk.read_syncDir⟩
  | syncDirFails hphase =>
    exact ⟨s, .init, h.settle hcall hphase rfl (by rintro ⟨⟩) (by rintro ⟨⟩) rfl⟩
  | load hphase | loadFails hphase =>
    exact h.finish hcall (fun _ hclosure => hclosure.finished hphase rfl (by rintro ⟨⟩)) rfl
  | cleanUp hphase =>
    exact h.finish hcall (fun _ hclosure => hclosure.finished hphase rfl (by rintro ⟨⟩))
      (CrashDisk.read_remove (temporary_ne _))
  | cleanUpFails hphase =>
    exact h.finish hcall (fun _ hclosure => hclosure.finished hphase rfl (by rintro ⟨⟩)) rfl

/-! ## Runs -/

/-- A step on the disk is a run of the store, or a crash. -/
lemma Rel.step {e : Event C} (h : Rel f d s) (hdurable : Durable f initial d) (hok : d.Alone e)
    (hstep : d.step f e = some d') :
    (∃ s', Reach (ConfigStore.step f) ConfigStore.NoOverlap s s' ∧ Rel f d' s') ∨
      Rel f d' (.start (d'.disk.read .config)) := by
  cases e with
  | spawn mutate =>
    simp only [ConfigDisk.step, Option.ite_none_right_eq_some, List.all_eq_true,
      Bool.not_eq_true'] at hstep
    obtain rfl := Option.some.inj hstep.2
    exact .inl (h.spawn hstep.1 mutate)
  | drop i =>
    obtain ⟨call, hcall, hstep⟩ := Option.bind_eq_some_iff.mp hstep
    simp only [Option.ite_none_right_eq_some] at hstep
    obtain rfl := Option.some.inj hstep.2
    exact .inl (h.drop hcall hstep.1)
  | call i e =>
    obtain ⟨call, hcall, hstep⟩ := Option.bind_eq_some_iff.mp hstep
    exact .inl (h.moves hdurable hok hcall (moves_of_callStep hstep))
  | crash kept torn =>
    cases hstep
    exact .inr (rel_crash f _)

/-- **The disk refines the store.**  Since the start or the last crash, the run on the disk is a run
of the store from the file that was there, with the same requests and the same file. -/
theorem refines_store (h : Reach (ConfigDisk.step f) Alone (.start initial) d) :
    ∃ (booted : Option String) (s : ConfigStore C),
      Reach (ConfigStore.step f) ConfigStore.NoOverlap (.start booted) s ∧ Rel f d s := by
  induction h with
  | init => exact ⟨_, _, .init, rel_crash f _⟩
  | next hreach hok hstep ih =>
    obtain ⟨booted, s, hrun, hrel⟩ := ih
    rcases hrel.step (durable_of_reach hreach) hok hstep with ⟨s', hrun', hrel'⟩ | hrel'
    · exact ⟨booted, s', hrun.trans hrun', hrel'⟩
    · exact ⟨_, _, .init, hrel'⟩

end ConfigDisk

end GateRust.Control
