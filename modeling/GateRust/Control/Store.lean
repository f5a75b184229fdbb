/-
# The configuration store of the control plane

A change of a configuration file goes through `mutate_tunnel` or `mutate_proxy` in `store.rs`:
the request waits for the permit of the file, and a closure on a blocking thread then reads the
file, applies the change, and replaces the file.  The permit is held by the future of the
request.  When the future is dropped, the permit is released, but the closure runs on.

The two functions differ in the type of the configuration, in its default and in the functions
that read and write it, so they are one definition with these as parameters.
-/
import GateRust.Lib.Machine
import GateRust.Lib.History
import GateRust.Tunnel.Config

namespace GateRust.Control

open Machine History

/-! ## Configuration files -/

inductive ControlError where
  | resourceNotFound (kind name : String)
  | resourceConflict (message : String)
  | readRuntimeConfig (message : String)
  | writeRuntimeConfig (message : String)
deriving DecidableEq, Repr

/-- A kind of configuration file: its default and the functions that convert it.  `read` parses
and validates a text. -/
structure ConfigFormat (C : Type) where
  default : C
  toToml : C → Except String String
  read : String → Except String C

/-- A change of a configuration: the closure that the request passes. -/
abbrev Mutation (C : Type) := C → Except ControlError C

variable {C : Type}

namespace ConfigFormat

variable (f : ConfigFormat C)

/-- `load_optional_tunnel` and `load_optional_proxy`, for the text of the file if there is one. -/
def loadOptional : Option String → Except ControlError (Option C)
  | none => .ok none
  | some text => ((f.read text).map some).mapError .readRuntimeConfig

/-- The configuration that the closure wants to write. -/
def mutated (mutate : Mutation C) (text : Option String) : Except ControlError C :=
  (f.loadOptional text).bind fun config => mutate (config.getD f.default)

/-- `write_validated` up to the replacement of the file: the text and what is read back from
it. -/
def validated (config : C) : Except ControlError (String × C) :=
  ((f.toToml config).mapError .writeRuntimeConfig).bind fun text =>
    ((f.read text).map fun stored => (text, stored)).mapError .writeRuntimeConfig

/-- The text that a change makes of a text. -/
def apply (mutate : Mutation C) (text : Option String) : Except ControlError String :=
  ((f.mutated mutate text).bind f.validated).map Prod.fst

end ConfigFormat

/-! ## Requests -/

/-- The future of a request. -/
inductive RequestFuture where
  /-- It waits for the permit. -/
  | waiting
  /-- It holds the permit and waits for its closure or for the runtime. -/
  | holding
  /-- It has returned or was dropped. -/
  | ended
deriving DecidableEq, Repr

/-- The closure that a request runs on a blocking thread. -/
inductive BlockingClosure (C : Type) where
  | notSpawned
  | queued
  /-- It has read the text and computed the configuration to write. -/
  | loaded (text : Option String) (config : C)
  | finished (result : Except ControlError C)

structure Request (C : Type) where
  mutate : Mutation C
  future : RequestFuture
  closure : BlockingClosure C

/-- A replacement of the file: the change, the text it was computed from, and the text it
wrote. -/
structure Commit (C : Type) where
  mutate : Mutation C
  base : Option String
  text : String

/-- The part of the store that belongs to one of the files, with the history of its
replacements. -/
structure ConfigStore (C : Type) where
  file : Option String
  /-- The request whose future holds the permit. -/
  writer : Option ℕ
  requests : List (Request C)
  commits : List (Commit C)

namespace ConfigStore

inductive Event (C : Type) where
  | request (mutate : Mutation C)
  /-- The future gets the permit and spawns its closure. -/
  | acquire (i : ℕ)
  /-- The closure reads the file and applies the change. -/
  | load (i : ℕ)
  /-- The closure writes the temporary file and renames it, and then syncs the directory. -/
  | commit (i : ℕ) (io sync : Except String Unit)
  /-- The future returns. -/
  | complete (i : ℕ)
  /-- The future is dropped. -/
  | drop (i : ℕ)

def start (file : Option String) : ConfigStore C := ⟨file, none, [], []⟩

variable (f : ConfigFormat C) (s : ConfigStore C)

def setRequest (i : ℕ) (r : Request C) : ConfigStore C :=
  { s with requests := s.requests.set i r }

/-- The rename of `write_validated`. -/
def replace (mutate : Mutation C) (base : Option String) (text : String) : ConfigStore C :=
  { s with file := some text, commits := s.commits ++ [⟨mutate, base, text⟩] }

/-- The future of a request ends and releases the permit if it holds it. -/
def endFuture (i : ℕ) (r : Request C) : ConfigStore C :=
  { s.setRequest i { r with future := .ended } with
    writer := if r.future = .holding then none else s.writer }

def step : Event C → Option (ConfigStore C)
  | .request mutate =>
    some { s with requests := s.requests ++ [⟨mutate, .waiting, .notSpawned⟩] }
  | .acquire i =>
    match s.requests[i]?, s.writer with
    | some ⟨mutate, .waiting, _⟩, none =>
      some { s.setRequest i ⟨mutate, .holding, .queued⟩ with writer := some i }
    | _, _ => none
  | .load i =>
    match s.requests[i]? with
    | some ⟨mutate, future, .queued⟩ =>
      match f.mutated mutate s.file with
      | .ok config => some (s.setRequest i ⟨mutate, future, .loaded s.file config⟩)
      | .error error => some (s.setRequest i ⟨mutate, future, .finished (.error error)⟩)
    | _ => none
  | .commit i io sync =>
    match s.requests[i]? with
    | some ⟨mutate, future, .loaded base config⟩ =>
      match f.validated config, io with
      | .ok (text, stored), .ok () =>
        -- the file is replaced even if the directory cannot be synced afterwards
        let result := (sync.map fun _ => stored).mapError .writeRuntimeConfig
        some ((s.replace mutate base text).setRequest i ⟨mutate, future, .finished result⟩)
      | .ok _, .error error =>
        some (s.setRequest i ⟨mutate, future, .finished (.error (.writeRuntimeConfig error))⟩)
      | .error error, _ => some (s.setRequest i ⟨mutate, future, .finished (.error error)⟩)
    | _ => none
  | .complete i =>
    match s.requests[i]? with
    | some ⟨mutate, .holding, .finished result⟩ =>
      some (s.endFuture i ⟨mutate, .holding, .finished result⟩)
    | _ => none
  | .drop i =>
    match s.requests[i]? with
    -- the closure is not stopped with its future
    | some r => if r.future = .ended then none else some (s.endFuture i r)
    | none => none

end ConfigStore

end GateRust.Control
