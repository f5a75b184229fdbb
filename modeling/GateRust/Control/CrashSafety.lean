/-
# Configuration files and crashes

`write_validated` writes a configuration into a temporary file, syncs it, reads it back, renames it
over the file and syncs the directory.  Any call of the operating system may fail, and the machine
may lose power between any two of them; the next closure then starts from what is left.

The permit of the file belongs to the future of a request.  When the request is dropped, its closure
runs on, and the closure of the next request may overlap with it.  In the runs where no closure
starts while another one runs, what is left is always the outcome of a sequence of changes, in the
order of the closures, and no change is missing in it whose closure has returned without an error.
-/
import GateRust.Lib.CrashDisk
import GateRust.Control.MutationEffects

namespace GateRust.Control

open Machine

variable {C : Type}

/-- The names of the directory: the file, and temporary files by their random numbers. -/
inductive FileName where
  | config
  | temporary (random : UInt64)
deriving DecidableEq

lemma temporary_ne (random : UInt64) : FileName.temporary random ≠ .config := nofun

/-- How far the closure of a request has come. -/
inductive WritePhase where
  /-- No thread has started it. -/
  | queued
  /-- The text to write is there, and there is no file. -/
  | serialized (text : String)
  | created (random : UInt64) (file : ℕ) (text : String)
  | written (random : UInt64) (file : ℕ) (text : String)
  | synced (random : UInt64) (file : ℕ) (text : String)
  /-- The temporary file was read back. -/
  | validated (random : UInt64) (file : ℕ) (text : String)
  | renamed (random : UInt64) (text : String)
  /-- The directory is synced, and the file has not been loaded for the module. -/
  | replaced (text : String)
  /-- An error will be returned, after the temporary file is removed. -/
  | failed (random : UInt64)
  | returned
deriving DecidableEq

/-- The closure has read the file and has not returned. -/
def WritePhase.isRunning : WritePhase → Bool
  | .queued | .returned => false
  | .serialized _ | .created .. | .written .. | .synced .. | .validated .. | .renamed ..
  | .replaced _ | .failed _ => true

/-- The closure of a request: the change, and the text that it has read. -/
structure WriteCall (C : Type) where
  mutate : Mutation C
  base : Option String
  phase : WritePhase
  /-- The future of the request was dropped, and the permit with it. -/
  dropped : Bool

def WriteCall.holdsPermit (call : WriteCall C) : Bool := !call.dropped && call.phase ≠ .returned

/-- The directory of the file, the closures since the program was started, and what was done so
far. -/
structure ConfigDisk (C : Type) where
  disk : CrashDisk FileName String
  calls : List (WriteCall C)
  /-- History: the changes of all closures, in the order in which they read the file. -/
  begun : List (Mutation C)
  /-- History: the changes whose closures have returned without an error. -/
  acknowledged : List (Mutation C)

namespace ConfigDisk

/-- What a closure does. -/
inductive CallEvent where
  | read
  | create (random : UInt64) (ok : Bool)
  /-- `write_all`, or an error that leaves something else in the file. -/
  | write (partly : Option String)
  | syncFile (ok : Bool)
  | readBack (ok : Bool)
  | rename (ok : Bool)
  | syncDir (ok : Bool)
  | load (ok : Bool)
  | cleanUp (ok : Bool)

inductive Event (C : Type) where
  /-- A request gets the permit and spawns its closure. -/
  | spawn (mutate : Mutation C)
  | drop (i : ℕ)
  | call (i : ℕ) (e : CallEvent)
  /-- The power is lost, and the program starts again. -/
  | crash (kept : List Bool) (torn : ℕ → String)

/-- A directory with the text, or without the file. -/
def start (initial : Option String) : ConfigDisk C where
  disk := {
    stored := fun
      | .config => initial.map fun _ => 0
      | .temporary _ => none
    pending := []
    content := fun _ => initial.getD ""
    synced := fun _ => true
    next := 1 }
  calls := []
  begun := []
  acknowledged := []

variable (f : ConfigFormat C) (s : ConfigDisk C)

def setCall (i : ℕ) (call : WriteCall C) : ConfigDisk C :=
  { s with calls := s.calls.set i call }

def setPhase (i : ℕ) (call : WriteCall C) (phase : WritePhase) : ConfigDisk C :=
  s.setCall i { call with phase }

/-- The text that the closure wants to write over the text. -/
def prepare (mutate : Mutation C) (base : Option String) : Except ControlError String :=
  (f.mutated mutate base).bind fun config =>
    (f.toToml config).mapError ControlError.writeRuntimeConfig

/-- The closure reads the file and changes what it has read. -/
def readFile (i : ℕ) (call : WriteCall C) : ConfigDisk C :=
  let base := s.disk.read .config
  let phase := match prepare f call.mutate base with
    | .ok text => .serialized text
    | .error _ => .returned
  { s.setCall i { call with base, phase } with begun := s.begun ++ [call.mutate] }

/-- One step of a closure, most of them a call of the operating system. -/
def callStep (i : ℕ) (call : WriteCall C) : CallEvent → Option (ConfigDisk C)
  | .read =>
    match call.phase with
    | .queued => some (s.readFile f i call)
    | _ => none
  | .create random ok =>
    match call.phase with
    | .serialized text =>
      -- `create_new` fails if there is such a file
      if ok && (s.disk.entries (.temporary random)).isNone then
        some { s.setPhase i call (.created random s.disk.next text) with
          disk := s.disk.create (.temporary random) "" }
      else some (s.setPhase i call (.failed random))
    | _ => none
  | .write partly =>
    match call.phase, partly with
    | .created random file text, none =>
      some { s.setPhase i call (.written random file text) with disk := s.disk.write file text }
    | .created random file _, some value =>
      some { s.setPhase i call (.failed random) with disk := s.disk.write file value }
    | _, _ => none
  | .syncFile ok =>
    match call.phase with
    | .written random file text =>
      if ok then
        some { s.setPhase i call (.synced random file text) with disk := s.disk.syncFile file }
      else some (s.setPhase i call (.failed random))
    | _ => none
  | .readBack ok =>
    match call.phase with
    | .synced random file text =>
      if ok && ((s.disk.read (.temporary random)).any fun text => (f.read text).isOk) then
        some (s.setPhase i call (.validated random file text))
      else some (s.setPhase i call (.failed random))
    | _ => none
  | .rename ok =>
    match call.phase with
    | .validated random _ text =>
      -- the temporary file may be gone
      if ok && (s.disk.entries (.temporary random)).isSome then
        some { s.setPhase i call (.renamed random text) with
          disk := s.disk.rename (.temporary random) .config }
      else some (s.setPhase i call (.failed random))
    | _ => none
  | .syncDir ok =>
    match call.phase with
    | .renamed random text =>
      if ok then some { s.setPhase i call (.replaced text) with disk := s.disk.syncDir }
      else some (s.setPhase i call (.failed random))
    | _ => none
  | .load ok =>
    match call.phase with
    | .replaced _ =>
      if ok && (f.loadOptional (s.disk.read .config)).isOk then
        some { s.setPhase i call .returned with
          acknowledged := s.acknowledged ++ [call.mutate] }
      else some (s.setPhase i call .returned)
    | _ => none
  | .cleanUp ok =>
    match call.phase with
    | .failed random =>
      if ok && (s.disk.entries (.temporary random)).isSome then
        some { s.setPhase i call .returned with disk := s.disk.remove (.temporary random) }
      else some (s.setPhase i call .returned)
    | _ => none

def step : Event C → Option (ConfigDisk C)
  | .spawn mutate =>
    if s.calls.all fun call => !call.holdsPermit then
      some { s with calls := s.calls ++ [⟨mutate, none, .queued, false⟩] }
    else none
  | .drop i =>
    -- the closure is not stopped with its future
    (s.calls[i]?).bind fun call =>
      if call.holdsPermit then some (s.setCall i { call with dropped := true }) else none
  | .call i e => (s.calls[i]?).bind fun call => s.callStep f i call e
  | .crash kept torn => some { s with disk := s.disk.crash kept torn, calls := [] }

/-- No closure starts while another one runs. -/
def Alone : Event C → Prop
  | .call _ .read => ∀ call ∈ s.calls, call.phase.isRunning = false
  | _ => True

instance : (e : Event C) → Decidable (s.Alone e)
  | .call _ .read => inferInstanceAs (Decidable (∀ _ ∈ _, _))
  | .call _ (.create ..) | .call _ (.write _) | .call _ (.syncFile _) | .call _ (.readBack _)
  | .call _ (.rename _) | .call _ (.syncDir _) | .call _ (.load _) | .call _ (.cleanUp _)
  | .spawn _ | .drop _ | .crash .. => isTrue trivial

end ConfigDisk

/-! ## What the file has -/

/-- The text is made by the changes, one after the other, from the text in the beginning. -/
inductive Made (f : ConfigFormat C) (initial : Option String) :
    List (Mutation C) → Option String → Prop where
  | start : Made f initial [] initial
  | change {changes : List (Mutation C)} {base : Option String} {mutate : Mutation C}
      {text : String} (h : Made f initial changes base) (happly : f.apply mutate base = .ok text) :
      Made f initial (changes ++ [mutate]) (some text)

/-- The text is made by all acknowledged changes and some others of those that were begun. -/
def Accounted (f : ConfigFormat C) (initial : Option String)
    (acknowledged begun : List (Mutation C)) (text : Option String) : Prop :=
  ∃ changes, Made f initial changes text ∧ acknowledged.Sublist changes ∧ changes.Sublist begun

section Accounted

variable {f : ConfigFormat C} {initial text : Option String}
  {acknowledged acknowledged' begun begun' : List (Mutation C)}

lemma Accounted.mono (h : Accounted f initial acknowledged begun text)
    (hacknowledged : acknowledged'.Sublist acknowledged) (hbegun : begun.Sublist begun') :
    Accounted f initial acknowledged' begun' text := by
  obtain ⟨changes, hmade, hall, hsome⟩ := h
  exact ⟨changes, hmade, hacknowledged.trans hall, hsome.trans hbegun⟩

/-- A change of the text is accounted for by itself. -/
lemma Accounted.change {mutate : Mutation C} {text' : String}
    (h : Accounted f initial acknowledged begun text) (happly : f.apply mutate text = .ok text') :
    Accounted f initial (acknowledged ++ [mutate]) (begun ++ [mutate]) (some text') := by
  obtain ⟨changes, hmade, hall, hsome⟩ := h
  exact ⟨changes ++ [mutate], hmade.change happly, hall.append_right _, hsome.append_right _⟩

lemma read_of_apply {mutate : Mutation C} {text' : String}
    (h : f.apply mutate text = .ok text') : ∃ stored, f.read text' = .ok stored := by
  cases hvalidated : (f.mutated mutate text).bind f.validated with
  | error error =>
    rw [ConfigFormat.apply, hvalidated] at h
    cases h
  | ok written =>
    rw [ConfigFormat.apply, hvalidated] at h
    cases h
    obtain ⟨config, -, hwritten⟩ := Except.exists_ok_of_bind hvalidated
    exact ⟨written.2, (validated_ok hwritten).2⟩

/-- What is made of a file that can be loaded, or of none, can be loaded. -/
lemma Made.load {changes : List (Mutation C)} (h : Made f initial changes text)
    (hinitial : (f.loadOptional initial).isOk = true) : (f.loadOptional text).isOk = true := by
  cases h with
  | start => exact hinitial
  | @change _ base mutate text' h happly =>
    obtain ⟨stored, hread⟩ := read_of_apply happly
    simp only [ConfigFormat.loadOptional, hread]
    rfl

end Accounted

namespace ConfigDisk

variable {f : ConfigFormat C} {initial : Option String} {s s' : ConfigDisk C}

/-! ## The moves of a closure -/

/-- The text that the closure has not yet put into the place of the file. -/
def text? : WritePhase → Option String
  | .serialized text | .created _ _ text | .written _ _ text | .synced _ _ text
  | .validated _ _ text => some text
  | .queued | .renamed .. | .replaced _ | .failed _ | .returned => none

lemma isRunning_of_text {phase : WritePhase} {text : String} (h : text? phase = some text) :
    phase.isRunning = true := by
  cases phase with
  | queued | returned => cases h
  | serialized | created | written | synced | validated | renamed | replaced | failed => rfl

/-- What one step of a closure does. -/
inductive Moves (f : ConfigFormat C) (s : ConfigDisk C) (i : ℕ) (call : WriteCall C) :
    CallEvent → ConfigDisk C → Prop
  | read (hphase : call.phase = .queued) : Moves f s i call .read (s.readFile f i call)
  | create {random : UInt64} {ok : Bool} {text : String}
      (hphase : call.phase = .serialized text) :
      Moves f s i call (.create random ok)
        { s.setPhase i call (.created random s.disk.next text) with
          disk := s.disk.create (.temporary random) "" }
  | write {random : UInt64} {file : ℕ} {text : String}
      (hphase : call.phase = .created random file text) :
      Moves f s i call (.write none)
        { s.setPhase i call (.written random file text) with disk := s.disk.write file text }
  | writeFails {random : UInt64} {file : ℕ} {text value : String}
      (hphase : call.phase = .created random file text) :
      Moves f s i call (.write (some value))
        { s.setPhase i call (.failed random) with disk := s.disk.write file value }
  | syncFile {random : UInt64} {file : ℕ} {text : String} {ok : Bool}
      (hphase : call.phase = .written random file text) :
      Moves f s i call (.syncFile ok)
        { s.setPhase i call (.synced random file text) with disk := s.disk.syncFile file }
  | readBack {random : UInt64} {file : ℕ} {text : String} {ok : Bool}
      (hphase : call.phase = .synced random file text)
      (hread : ((s.disk.read (.temporary random)).any fun text => (f.read text).isOk) = true) :
      Moves f s i call (.readBack ok) (s.setPhase i call (.validated random file text))
  | rename {random : UInt64} {file : ℕ} {text : String} {ok : Bool}
      (hphase : call.phase = .validated random file text) :
      Moves f s i call (.rename ok)
        { s.setPhase i call (.renamed random text) with
          disk := s.disk.rename (.temporary random) .config }
  | fails {e : CallEvent} {random : UInt64} {text : String} (htext : text? call.phase = some text) :
      Moves f s i call e (s.setPhase i call (.failed random))
  | syncDir {random : UInt64} {text : String} {ok : Bool}
      (hphase : call.phase = .renamed random text) :
      Moves f s i call (.syncDir ok)
        { s.setPhase i call (.replaced text) with disk := s.disk.syncDir }
  | syncDirFails {random : UInt64} {text : String} {ok : Bool}
      (hphase : call.phase = .renamed random text) :
      Moves f s i call (.syncDir ok) (s.setPhase i call (.failed random))
  | load {text : String} {ok : Bool} (hphase : call.phase = .replaced text) :
      Moves f s i call (.load ok)
        { s.setPhase i call .returned with acknowledged := s.acknowledged ++ [call.mutate] }
  | loadFails {text : String} {ok : Bool} (hphase : call.phase = .replaced text) :
      Moves f s i call (.load ok) (s.setPhase i call .returned)
  | cleanUp {random : UInt64} {ok : Bool} (hphase : call.phase = .failed random) :
      Moves f s i call (.cleanUp ok)
        { s.setPhase i call .returned with disk := s.disk.remove (.temporary random) }
  | cleanUpFails {random : UInt64} {ok : Bool} (hphase : call.phase = .failed random) :
      Moves f s i call (.cleanUp ok) (s.setPhase i call .returned)

lemma moves_of_callStep {i : ℕ} {call : WriteCall C} {e : CallEvent}
    (h : s.callStep f i call e = some s') : s.Moves f i call e s' := by
  cases e with
  | read =>
    simp only [callStep] at h
    split at h
    case h_1 hphase =>
      cases h
      exact .read hphase
    case h_2 => cases h
  | create random ok =>
    simp only [callStep] at h
    split at h
    case h_1 text hphase =>
      split at h
      · cases h
        exact .create hphase
      · cases h
        exact .fails (congrArg text? hphase)
    case h_2 => cases h
  | write partly =>
    simp only [callStep] at h
    split at h
    case h_1 random file text hphase =>
      cases h
      exact .write hphase
    case h_2 random file text value hphase =>
      cases h
      exact .writeFails hphase
    case h_3 => cases h
  | syncFile ok =>
    simp only [callStep] at h
    split at h
    case h_1 random file text hphase =>
      split at h
      · cases h
        exact .syncFile hphase
      · cases h
        exact .fails (congrArg text? hphase)
    case h_2 => cases h
  | readBack ok =>
    simp only [callStep] at h
    split at h
    case h_1 random file text hphase =>
      split at h
      case isTrue hread =>
        cases h
        exact .readBack hphase (Bool.and_eq_true_iff.mp hread).2
      case isFalse =>
        cases h
        exact .fails (congrArg text? hphase)
    case h_2 => cases h
  | rename ok =>
    simp only [callStep] at h
    split at h
    case h_1 random file text hphase =>
      split at h
      · cases h
        exact .rename hphase
      · cases h
        exact .fails (congrArg text? hphase)
    case h_2 => cases h
  | syncDir ok =>
    simp only [callStep] at h
    split at h
    case h_1 random text hphase =>
      split at h
      · cases h
        exact .syncDir hphase
      · cases h
        exact .syncDirFails hphase
    case h_2 => cases h
  | load ok =>
    simp only [callStep] at h
    split at h
    case h_1 text hphase =>
      split at h
      · cases h
        exact .load hphase
      · cases h
        exact .loadFails hphase
    case h_2 => cases h
  | cleanUp ok =>
    simp only [callStep] at h
    split at h
    case h_1 random hphase =>
      split at h
      · cases h
        exact .cleanUp hphase
      · cases h
        exact .cleanUpFails hphase
    case h_2 => cases h

/-! ## The invariant -/

/-- The text is what the closure wants to write. -/
def Prepared (f : ConfigFormat C) (call : WriteCall C) (text : String) : Prop :=
  ∃ config, f.mutated call.mutate call.base = .ok config ∧ f.toToml config = .ok text

/-- The temporary file, which no crash leaves under the name of the configuration. -/
structure Fresh (d : CrashDisk FileName String) (random : UInt64) (file : ℕ) : Prop where
  entry : d.entries (.temporary random) = some file
  apart : ¬ d.Possible .config (some file)
  lt : file < d.next

lemma Fresh.read_rename {d : CrashDisk FileName String} {random : UInt64} {file : ℕ} {text : String}
    (h : Fresh d random file) (hcontent : d.content file = text) :
    (d.rename (.temporary random) .config).read .config = some text := by
  show Option.map _ ((d.rename (.temporary random) .config).entries .config) = _
  rw [d.entries_rename_target, h.entry]
  exact congrArg some hcontent

/-- What the closure has done so far. -/
def PhaseOk (f : ConfigFormat C) (d : CrashDisk FileName String) (call : WriteCall C) : Prop :=
  match call.phase with
  | .serialized text => Prepared f call text
  | .created random file text => Prepared f call text ∧ Fresh d random file
  | .written random file text =>
    Prepared f call text ∧ Fresh d random file ∧ d.content file = text
  | .synced random file text =>
    Prepared f call text ∧ Fresh d random file ∧ d.content file = text ∧ d.synced file = true
  | .validated random file text =>
    f.apply call.mutate call.base = .ok text ∧ Fresh d random file ∧ d.content file = text ∧
      d.synced file = true
  | .renamed _ text =>
    f.apply call.mutate call.base = .ok text ∧ d.read .config = some text
  | .replaced text =>
    f.apply call.mutate call.base = .ok text ∧ d.Settled .config (· = some text)
  | .queued | .failed _ | .returned => True

/-- Whatever a crash leaves of the file is accounted for, and so is what the one closure that runs
has read. -/
structure Durable (f : ConfigFormat C) (initial : Option String) (s : ConfigDisk C) : Prop where
  settled : s.disk.Settled .config (Accounted f initial s.acknowledged s.begun)
  running : ∀ (i : ℕ) (call : WriteCall C), s.calls[i]? = some call →
    call.phase.isRunning = true → PhaseOk f s.disk call ∧ ∃ earlier,
      s.begun = earlier ++ [call.mutate] ∧ Accounted f initial s.acknowledged earlier call.base
  alone : ∀ (i j : ℕ) (call call' : WriteCall C), s.calls[i]? = some call →
    s.calls[j]? = some call' → call.phase.isRunning = true → call'.phase.isRunning = true → i = j

lemma apply_of_prepared {call : WriteCall C} {text : String} (h : Prepared f call text)
    (hread : (f.read text).isOk = true) : f.apply call.mutate call.base = .ok text := by
  obtain ⟨config, hmutated, htext⟩ := h
  cases hstored : f.read text with
  | error error =>
    rw [hstored] at hread
    cases hread
  | ok stored =>
    simp [ConfigFormat.apply, hmutated, ConfigFormat.validated, htext, hstored, Except.bind,
      Except.map, Except.mapError]

variable {i : ℕ} {call : WriteCall C}

/-- The closures after one of them is replaced. -/
lemma call_set {calls : List (WriteCall C)} {j : ℕ} {new x : WriteCall C}
    (h : (calls.set i new)[j]? = some x) : (j = i ∧ x = new) ∨ calls[j]? = some x := by
  rw [List.getElem?_set] at h
  split at h
  case isTrue hij =>
    split at h
    · exact .inl ⟨hij.symm, (Option.some.inj h).symm⟩
    · cases h
  case isFalse => exact .inr h

/-- The closures after one is added. -/
lemma call_snoc {calls : List (WriteCall C)} {j : ℕ} {new x : WriteCall C}
    (h : (calls ++ [new])[j]? = some x) :
    (j = calls.length ∧ x = new) ∨ calls[j]? = some x := by
  by_cases hj : j < calls.length
  · rw [List.getElem?_append_left hj] at h
    exact .inr h
  · obtain ⟨hlt, -⟩ := List.getElem?_eq_some_iff.mp h
    rw [List.length_append, List.length_singleton] at hlt
    obtain rfl : j = calls.length := by omega
    rw [List.getElem?_concat_length] at h
    exact .inl ⟨rfl, (Option.some.inj h).symm⟩

/-- The closure that runs goes on. -/
lemma Durable.setPhase {phase : WritePhase} {disk : CrashDisk FileName String}
    (h : Durable f initial s) (hcall : s.calls[i]? = some call)
    (hrunning : call.phase.isRunning = true)
    (hsettled : disk.Settled .config (Accounted f initial s.acknowledged s.begun))
    (hphase : PhaseOk f disk { call with phase }) :
    Durable f initial { s.setPhase i call phase with disk } := by
  have hother : ∀ (j : ℕ) (x : WriteCall C), (s.calls.set i { call with phase })[j]? = some x →
      x.phase.isRunning = true → j = i ∧ x = { call with phase } := by
    intro j x hx hxrunning
    rcases call_set hx with hnew | hold
    · exact hnew
    · obtain rfl := h.alone j i x call hold hcall hxrunning hrunning
      rw [List.getElem?_set_self (List.getElem?_eq_some_iff.mp hcall).1] at hx
      exact ⟨rfl, (Option.some.inj hx).symm⟩
  refine ⟨hsettled, fun j x hx hxrunning => ?_, fun j k x y hx hy hxrunning hyrunning => ?_⟩
  · obtain ⟨-, rfl⟩ := hother j x hx hxrunning
    exact ⟨hphase, (h.running i call hcall hrunning).2⟩
  · rw [(hother j x hx hxrunning).1, (hother k y hy hyrunning).1]

/-- The closure that runs returns. -/
lemma Durable.returned {disk : CrashDisk FileName String} {acknowledged : List (Mutation C)}
    (h : Durable f initial s) (hcall : s.calls[i]? = some call)
    (hrunning : call.phase.isRunning = true)
    (hsettled : disk.Settled .config (Accounted f initial acknowledged s.begun)) :
    Durable f initial { s.setPhase i call .returned with disk, acknowledged } := by
  have hnone : ∀ (j : ℕ) (x : WriteCall C),
      (s.calls.set i { call with phase := .returned })[j]? = some x →
      x.phase.isRunning ≠ true := by
    intro j x hx hxrunning
    rcases call_set hx with ⟨-, rfl⟩ | hold
    · cases hxrunning
    · obtain rfl := h.alone j i x call hold hcall hxrunning hrunning
      rw [List.getElem?_set_self (List.getElem?_eq_some_iff.mp hcall).1] at hx
      obtain rfl := Option.some.inj hx
      cases hxrunning
  exact ⟨hsettled, fun j x hx hxrunning => absurd hxrunning (hnone j x hx),
    fun j k x y hx _ hxrunning => absurd hxrunning (hnone j x hx)⟩

lemma Durable.fail (h : Durable f initial s) (hcall : s.calls[i]? = some call)
    (hrunning : call.phase.isRunning = true) (random : UInt64) :
    Durable f initial (s.setPhase i call (.failed random)) :=
  h.setPhase hcall hrunning h.settled trivial

/-- A change of the closures that do not run. -/
lemma Durable.withCalls {calls : List (WriteCall C)} (h : Durable f initial s)
    (hcalls : ∀ (j : ℕ) (x : WriteCall C), calls[j]? = some x → x.phase.isRunning = true →
      ∃ dropped, s.calls[j]? = some { x with dropped }) :
    Durable f initial { s with calls } := by
  refine ⟨h.settled, fun j x hx hrunning => ?_, fun j k x y hx hy hxrunning hyrunning => ?_⟩
  · obtain ⟨dropped, hold⟩ := hcalls j x hx hrunning
    exact h.running j { x with dropped } hold hrunning
  · obtain ⟨_, hold⟩ := hcalls j x hx hxrunning
    obtain ⟨_, hold'⟩ := hcalls k y hy hyrunning
    exact h.alone j k _ _ hold hold' hxrunning hyrunning

lemma Durable.spawn (h : Durable f initial s) (mutate : Mutation C) :
    Durable f initial { s with calls := s.calls ++ [⟨mutate, none, .queued, false⟩] } := by
  refine h.withCalls fun j x hx hrunning => ⟨x.dropped, ?_⟩
  rcases call_snoc hx with ⟨-, rfl⟩ | hold
  · cases hrunning
  · exact hold

lemma Durable.drop (h : Durable f initial s) (hcall : s.calls[i]? = some call) :
    Durable f initial (s.setCall i { call with dropped := true }) := by
  refine h.withCalls fun j x hx _ => ?_
  rcases call_set hx with ⟨rfl, rfl⟩ | hold
  · exact ⟨call.dropped, hcall⟩
  · exact ⟨x.dropped, hold⟩

/-- What the closure reads is accounted for without its own change. -/
lemma Durable.readFile (h : Durable f initial s)
    (hidle : ∀ call ∈ s.calls, call.phase.isRunning = false) :
    Durable f initial (s.readFile f i call) := by
  have hsettled : s.disk.Settled .config
      (Accounted f initial s.acknowledged (s.begun ++ [call.mutate])) :=
    h.settled.imp fun v hv => hv.mono (List.Sublist.refl _) (List.sublist_append_left _ _)
  have hnew : ∀ j x, (s.readFile f i call).calls[j]? = some x → x.phase.isRunning = true →
      j = i ∧ x.mutate = call.mutate ∧ x.base = s.disk.read .config ∧
        ∃ text, x.phase = .serialized text ∧ prepare f call.mutate x.base = .ok text := by
    intro j x hx hrunning
    rcases call_set hx with ⟨rfl, rfl⟩ | hold
    · refine ⟨rfl, rfl, rfl, ?_⟩
      dsimp only at hrunning ⊢
      split at hrunning
      case h_1 text htext => exact ⟨text, rfl, htext⟩
      case h_2 => cases hrunning
    · rw [hidle x (List.mem_of_getElem? hold)] at hrunning
      cases hrunning
  refine ⟨hsettled, fun j x hx hrunning => ?_, fun j k x y hx hy hxrunning hyrunning => ?_⟩
  · obtain ⟨-, hmutate, hbase, text, hphase, htext⟩ := hnew j x hx hrunning
    obtain ⟨config, hmutated, htoml⟩ := Except.exists_ok_of_bind htext
    refine ⟨?_, s.begun, by rw [hmutate]; rfl, ?_⟩
    · simp only [PhaseOk, hphase]
      exact ⟨config, hmutate ▸ hmutated, Except.ok_of_mapError_ok htoml⟩
    · rw [hbase]
      exact h.settled.read
  · rw [(hnew j x hx hxrunning).1, (hnew k y hy hyrunning).1]

/-- What the closure that runs has done so far. -/
lemma Durable.phaseOk {phase : WritePhase} (h : Durable f initial s)
    (hcall : s.calls[i]? = some call) (hphase : call.phase = phase)
    (hrunning : phase.isRunning = true) : PhaseOk f s.disk { call with phase } := by
  subst hphase
  exact (h.running i call hcall hrunning).1

variable {random : UInt64} {file : ℕ} {text : String}

lemma Durable.create (h : Durable f initial s) (hcall : s.calls[i]? = some call)
    (hphase : call.phase = .serialized text) :
    Durable f initial { s.setPhase i call (.created random s.disk.next text) with
      disk := s.disk.create (.temporary random) "" } := by
  have hprepared : Prepared f call text := h.phaseOk hcall hphase rfl
  have hapart : ¬ (s.disk.create (FileName.temporary random) "").Possible .config
      (some s.disk.next) :=
    fun hnext => h.settled.not_possible_next
      (CrashDisk.possible_of_create (temporary_ne random) hnext)
  exact h.setPhase hcall (by rw [hphase]; rfl) (h.settled.create (temporary_ne random))
    ⟨hprepared, ⟨s.disk.entries_create_self _ _, hapart, Nat.lt_succ_self _⟩⟩

lemma Durable.write (h : Durable f initial s) (hcall : s.calls[i]? = some call)
    (hphase : call.phase = .created random file text) :
    Durable f initial { s.setPhase i call (.written random file text) with
      disk := s.disk.write file text } := by
  obtain ⟨hprepared, hentry, hapart, hlt⟩ := h.phaseOk hcall hphase rfl
  exact h.setPhase hcall (by rw [hphase]; rfl) (h.settled.write hapart)
    ⟨hprepared, ⟨hentry, hapart, hlt⟩, s.disk.content_write_self file text⟩

lemma Durable.writeFails (h : Durable f initial s) (hcall : s.calls[i]? = some call)
    (hphase : call.phase = .created random file text) (value : String) :
    Durable f initial { s.setPhase i call (.failed random) with
      disk := s.disk.write file value } := by
  obtain ⟨-, hfresh⟩ := h.phaseOk hcall hphase rfl
  exact h.setPhase hcall (by rw [hphase]; rfl) (h.settled.write hfresh.apart) trivial

lemma Durable.syncFile (h : Durable f initial s) (hcall : s.calls[i]? = some call)
    (hphase : call.phase = .written random file text) :
    Durable f initial { s.setPhase i call (.synced random file text) with
      disk := s.disk.syncFile file } := by
  obtain ⟨hprepared, ⟨hentry, hapart, hlt⟩, hcontent⟩ := h.phaseOk hcall hphase rfl
  exact h.setPhase hcall (by rw [hphase]; rfl) h.settled.syncFile
    ⟨hprepared, ⟨hentry, hapart, hlt⟩, hcontent, s.disk.synced_syncFile_self file⟩

lemma Durable.readBack (h : Durable f initial s) (hcall : s.calls[i]? = some call)
    (hphase : call.phase = .synced random file text)
    (hread : ((s.disk.read (.temporary random)).any fun text => (f.read text).isOk) = true) :
    Durable f initial (s.setPhase i call (.validated random file text)) := by
  obtain ⟨hprepared, hfresh, hcontent, hsynced⟩ := h.phaseOk hcall hphase rfl
  have htext : s.disk.read (.temporary random) = some text := by
    rw [CrashDisk.read, hfresh.entry, Option.map_some, hcontent]
  rw [htext, Option.any_some] at hread
  exact h.setPhase hcall (by rw [hphase]; rfl) h.settled
    ⟨apply_of_prepared hprepared hread, hfresh, hcontent, hsynced⟩

lemma Durable.rename (h : Durable f initial s) (hcall : s.calls[i]? = some call)
    (hphase : call.phase = .validated random file text) :
    Durable f initial { s.setPhase i call (.renamed random text) with
      disk := s.disk.rename (.temporary random) .config } := by
  have hrunning : call.phase.isRunning = true := by rw [hphase]; rfl
  obtain ⟨happly, hfresh, hcontent, hsynced⟩ := h.phaseOk hcall hphase rfl
  obtain ⟨-, earlier, hbegun, hbase⟩ := h.running i call hcall hrunning
  have haccounted : Accounted f initial s.acknowledged s.begun (some text) :=
    hbegun ▸ (hbase.change happly).mono (List.sublist_append_left _ _) (List.Sublist.refl _)
  have hsettled : (s.disk.rename (.temporary random) .config).Settled .config
      (Accounted f initial s.acknowledged s.begun) :=
    h.settled.rename (temporary_ne random) hfresh.entry hsynced hfresh.lt (by rwa [hcontent])
  exact h.setPhase hcall hrunning hsettled ⟨happly, hfresh.read_rename hcontent⟩

lemma Durable.syncDir (h : Durable f initial s) (hcall : s.calls[i]? = some call)
    (hphase : call.phase = .renamed random text) :
    Durable f initial { s.setPhase i call (.replaced text) with disk := s.disk.syncDir } := by
  obtain ⟨happly, hread⟩ := h.phaseOk hcall hphase rfl
  have hsettled := h.settled.syncDir
  exact h.setPhase hcall (by rw [hphase]; rfl) (hsettled.imp fun v hv => hv.1)
    ⟨happly, hsettled.imp fun v hv => hv.2.trans hread⟩

/-- The closure returns without an error: whatever a crash leaves has its change. -/
lemma Durable.load (h : Durable f initial s) (hcall : s.calls[i]? = some call)
    (hphase : call.phase = .replaced text) :
    Durable f initial { s.setPhase i call .returned with
      acknowledged := s.acknowledged ++ [call.mutate] } := by
  have hrunning : call.phase.isRunning = true := by rw [hphase]; rfl
  obtain ⟨happly, hsettled⟩ := h.phaseOk hcall hphase rfl
  obtain ⟨-, earlier, hbegun, hbase⟩ := h.running i call hcall hrunning
  refine h.returned hcall hrunning (hsettled.imp ?_)
  rintro - rfl
  rw [hbegun]
  exact hbase.change happly

lemma Durable.moves {e : CallEvent} (h : Durable f initial s) (hok : s.Alone (.call i e))
    (hcall : s.calls[i]? = some call) (hmoves : s.Moves f i call e s') :
    Durable f initial s' := by
  cases hmoves with
  | read => exact h.readFile hok
  | create hphase => exact h.create hcall hphase
  | write hphase => exact h.write hcall hphase
  | writeFails hphase => exact h.writeFails hcall hphase _
  | syncFile hphase => exact h.syncFile hcall hphase
  | readBack hphase hread => exact h.readBack hcall hphase hread
  | rename hphase => exact h.rename hcall hphase
  | fails htext => exact h.fail hcall (isRunning_of_text htext) _
  | syncDir hphase => exact h.syncDir hcall hphase
  | syncDirFails hphase => exact h.fail hcall (by rw [hphase]; rfl) _
  | load hphase => exact h.load hcall hphase
  | loadFails hphase => exact h.returned hcall (by rw [hphase]; rfl) h.settled
  | cleanUp hphase =>
    exact h.returned hcall (by rw [hphase]; rfl) (h.settled.remove (temporary_ne _))
  | cleanUpFails hphase => exact h.returned hcall (by rw [hphase]; rfl) h.settled

lemma Durable.step {e : Event C} (h : Durable f initial s) (hok : s.Alone e)
    (hstep : s.step f e = some s') : Durable f initial s' := by
  cases e with
  | spawn mutate =>
    simp only [ConfigDisk.step, Option.ite_none_right_eq_some] at hstep
    obtain rfl := Option.some.inj hstep.2
    exact h.spawn mutate
  | drop i =>
    obtain ⟨call, hcall, hstep⟩ := Option.bind_eq_some_iff.mp hstep
    simp only [Option.ite_none_right_eq_some] at hstep
    obtain rfl := Option.some.inj hstep.2
    exact h.drop hcall
  | call i e =>
    obtain ⟨call, hcall, hstep⟩ := Option.bind_eq_some_iff.mp hstep
    exact h.moves hok hcall (moves_of_callStep hstep)
  | crash kept torn =>
    cases hstep
    refine ⟨h.settled.crash kept torn, fun i call hcall => ?_, fun i j call _ hcall => ?_⟩
    · cases hcall
    · cases hcall

lemma durable_start (f : ConfigFormat C) (initial : Option String) :
    Durable f initial (ConfigDisk.start initial) := by
  refine ⟨?_, fun i call hcall => ?_, fun i j call _ hcall => ?_⟩
  · rintro file (rfl | ⟨change, hmem, -⟩)
    · cases initial with
      | none => exact ⟨nofun, [], .start, List.Sublist.refl _, List.Sublist.refl _⟩
      | some text =>
        refine ⟨?_, [], .start, List.Sublist.refl _, List.Sublist.refl _⟩
        rintro i hi
        obtain rfl := Option.some.inj hi
        exact ⟨rfl, Nat.zero_lt_one⟩
    · cases hmem
  · cases hcall
  · cases hcall

lemma durable_of_reach (h : Reach (ConfigDisk.step f) Alone (.start initial) s) :
    Durable f initial s :=
  h.invariant (durable_start f initial) fun _ _ _ hs hok hstep => hs.step hok hstep

/-- **No crash loses an acknowledged change, and none leaves half of one**, as long as no closure
starts while that of a dropped request still runs.  Whatever calls fail and whenever the power is
lost, the file is what some of the changes make, one after the other in the order of the closures,
of the file in the beginning, and all changes are among them whose closures have returned without an
error.  It can be loaded if it could be in the beginning.  A closure that overlaps with the one of a
dropped request may overwrite what the other has acknowledged, with no call failing. -/
theorem file_of_changes (h : Reach (ConfigDisk.step f) Alone (.start initial) s) :
    ∃ changes, Made f initial changes (s.disk.read .config) ∧
      s.acknowledged.Sublist changes ∧ changes.Sublist s.begun ∧
      ((f.loadOptional initial).isOk → (f.loadOptional (s.disk.read .config)).isOk) := by
  obtain ⟨changes, hmade, hall, hsome⟩ := (durable_of_reach h).settled.read
  exact ⟨changes, hmade, hall, hsome, hmade.load⟩

/-- The closure of a request writes its text and returns. -/
def writeSteps (i : ℕ) (random : UInt64) : List (Event C) :=
  ([.read, .create random true, .write none, .syncFile true, .readBack true, .rename true,
    .syncDir true, .load true] : List CallEvent).map (Event.call i)

/-- A group is renamed by a request that is dropped.  The power is lost when it is to be renamed
back, after the rename of the file and before the directory is synced. -/
def crashEvents : List (Event Tunnel.ServerConfig) :=
  [.spawn renameGroup.mutation, .drop 0,
    .spawn (TunnelRequest.updateGroup "lab" ⟨"office", groupKey⟩).mutation] ++ writeSteps 0 7 ++
  (writeSteps 1 8).take 6 ++ [.crash [true, false] fun _ => ""]

theorem file_after_crash :
    ∃ s : ConfigDisk Tunnel.ServerConfig,
      s.disk.read .config = some (groupText "lab") ∧ s.acknowledged.length = 1 ∧
      ∃ changes, Made groupFormat (some (groupText "office")) changes (s.disk.read .config) ∧
        s.acknowledged.Sublist changes ∧ changes.Sublist s.begun ∧
        ((groupFormat.loadOptional (some (groupText "office"))).isOk →
          (groupFormat.loadOptional (s.disk.read .config)).isOk) := by
  have hrun : (exec (ConfigDisk.step groupFormat) Alone (.start (some (groupText "office")))
      crashEvents).map (fun s => (s.disk.read .config, s.acknowledged.length)) =
        some (some (groupText "lab"), 1) := by decide +kernel
  obtain ⟨s, hs, hfile⟩ := Option.map_eq_some_iff.mp hrun
  exact ⟨s, congrArg Prod.fst hfile, congrArg Prod.snd hfile, file_of_changes (reach_of_exec hs)⟩

end ConfigDisk

end GateRust.Control
