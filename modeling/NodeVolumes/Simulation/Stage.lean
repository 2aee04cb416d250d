import NodeVolumes.Metrics

/-! # Stages for simulations

On a stage, programs run against a store in memory while time is only counted. Hooks disturb single
calls: before a call they may change the store, cancel a token or install further hooks, and they may
let the call fail.

* `Stage.prepare` carries out one preparation.
* `Stage.strike` counts a call in the hooks and tells which of them fire. -/

namespace NodeVolumes.Simulation

/-- Something done to a stage between steps or by a hook. -/
inductive Preparation (σ Fault : Type) where
  /-- A change of the store. -/
  | change (f : σ → σ)
  /-- The cancellation of the current token. -/
  | cancel
  /-- A new current token. -/
  | newToken
  /-- A hook on the calls with a name, and on one object if a target is given: it fires at the `nth` of
  them from now on, or from that one on. -/
  | hook (call : String) (target : Option String) (nth : Nat) (every : Bool)
      (before : List (Preparation σ Fault)) (fault : Option Fault)

/-- A hook and the number of calls that it has counted. -/
structure Hook (σ Fault : Type) where
  call : String
  target : Option String
  nth : Nat
  every : Bool
  before : List (Preparation σ Fault)
  fault : Option Fault
  seen : Nat

namespace Hook

variable {σ Fault : Type}

/-- Tells whether a hook is about a call on an object. -/
def concerns (h : Hook σ Fault) (call object : String) : Bool :=
  h.call = call && h.target.all (· = object)

/-- The hook after one more call that it is about. -/
def count (h : Hook σ Fault) : Hook σ Fault := { h with seen := h.seen + 1 }

/-- Tells whether a hook fires at the call that it counted last. -/
def fires (h : Hook σ Fault) : Bool := h.seen = h.nth || (h.every && decide (h.nth ≤ h.seen))

end Hook

/-- A store with everything around it that a simulation keeps. -/
structure Stage (σ Fault Entry : Type) where
  store : σ
  /-- Milliseconds that have passed. -/
  clock : Nat := 0
  /-- The number of the current token. -/
  token : Nat := 0
  /-- The number of the token of the running step. -/
  running : Nat := 0
  /-- The numbers of the tokens that have been cancelled. -/
  cancelled : List Nat := []
  hooks : List (Hook σ Fault) := []
  /-- The calls of the running step, the latest first. -/
  calls : List Entry := []
  /-- The messages of the running step, the latest first. -/
  log : List (Severity × String) := []
  metrics : Metrics := {}
  /-- Whether the counters hear what programs tell. -/
  counting : Bool := true

namespace Stage

variable {σ Fault Entry : Type}

/-- Carries out a preparation. -/
def prepare (s : Stage σ Fault Entry) : Preparation σ Fault → Stage σ Fault Entry
  | .change f => { s with store := f s.store }
  | .cancel => { s with cancelled := s.token :: s.cancelled }
  | .newToken => { s with token := s.token + 1 }
  | .hook call target nth every before fault =>
    { s with hooks := s.hooks ++ [⟨call, target, nth, every, before, fault, 0⟩] }

/-- Carries out preparations in turn. -/
def prepareAll (s : Stage σ Fault Entry) (ps : List (Preparation σ Fault)) : Stage σ Fault Entry :=
  ps.foldl prepare s

/-- Counts a call in every hook that is about it, and gives the hooks that fire at it. -/
def strike (s : Stage σ Fault Entry) (call object : String) :
    List (Hook σ Fault) × Stage σ Fault Entry :=
  let counted := s.hooks.map fun h => if h.concerns call object then h.count else h
  (counted.filter fun h => h.concerns call object && h.fires, { s with hooks := counted })

/-- Tells whether the token of the running step has been cancelled. -/
def isCancelled (s : Stage σ Fault Entry) : Bool := s.cancelled.contains s.running

/-- The longest wait in milliseconds, thirty years of 365 days. -/
def longestWait : Nat := 30 * 365 * 24 * 60 * 60 * 1000

/-- Lets time pass; a wait that is too long ends after the longest one. -/
def pass (ms : Nat) (s : Stage σ Fault Entry) : Stage σ Fault Entry :=
  { s with clock := s.clock + min ms longestWait }

/-- Keeps a message and counts an outcome. -/
def hear (n : Note) (s : Stage σ Fault Entry) : Stage σ Fault Entry :=
  let counted := if s.counting then { s with metrics := s.metrics.observe n } else s
  match n with
  | .log severity text => { counted with log := (severity, text) :: counted.log }
  | _ => counted

/-- Keeps an entry about a call. -/
def record (s : Stage σ Fault Entry) (e : Entry) : Stage σ Fault Entry :=
  { s with calls := e :: s.calls }

/-- Looks at a label in every family of the counters. -/
def lookAt (s : Stage σ Fault Entry) (label : String) : Stage σ Fault Entry :=
  { s with metrics := s.metrics.look label }

end Stage

/-- What a step of a simulation did and gave. -/
structure Outcome (Entry α : Type) where
  result : α
  calls : List Entry
  /-- Milliseconds that passed. -/
  ms : Nat
  log : List (Severity × String)

/-- Runs a program as one step, which has the token that is current when it starts. -/
def Stage.act {σ Fault Entry Call α : Type} {Reply : Call → Type} (s : Stage σ Fault Entry)
    (w : World Call Reply Note (Stage σ Fault Entry)) (p : Program Call Reply Note α) :
    Outcome Entry α × Stage σ Fault Entry :=
  let start := { s with running := s.token, calls := [], log := [] }
  let (result, s') := w.run p start
  (⟨result, s'.calls.reverse, s'.clock - start.clock, s'.log.reverse⟩, s')

end NodeVolumes.Simulation
