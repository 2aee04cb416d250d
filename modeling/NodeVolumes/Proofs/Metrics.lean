import Mathlib.Algebra.Ring.Nat
import NodeVolumes.Proofs.Logging
import NodeVolumes.Simulation.EngineStage

/-! # What the counters say about calls

The counters hear all that the engine tells, and count the reports. So what they say is a matter of what has been
reported, and every call that is to be counted reports once.

* `Family.label?`: the label under which a family counts something that is told.
* `rows_observe`: one note adds one to the row of its label, in every family that counts it.
* `count_heard` and `total_heard`: the counters after events, by what has been told in them.
* `outcomes_are_counted`: the counters after calls, by their outcomes.
* `metrics_run`: the counters on a stage are those that hear what happens there. -/

namespace NodeVolumes

open Cluster (Call Event)
open Program.Event (notes)

/-! ### Sums over a map -/

namespace KeyMap

variable {κ : Type} [Ord κ] [Std.TransOrd κ] [Std.LawfulEqOrd κ] [DecidableEq κ]

theorem sum_insertEntry (k : κ) (v : Nat) {l : List (κ × Nat)}
    (hl : l.Pairwise fun a b => compare a.1 b.1 = .lt) :
    ((insertEntry k v l).map (·.2)).sum + (lookupEntry k l).getD 0 = (l.map (·.2)).sum + v := by
  induction l with
  | nil => simp [insertEntry, lookupEntry]
  | cons hd tl ih =>
    obtain ⟨k', v'⟩ := hd
    rw [List.pairwise_cons] at hl
    have hrest := ih hl.2
    simp only [insertEntry]
    split
    case h_1 hlt =>
      -- every key of the list is greater
      have habsent : lookupEntry k ((k', v') :: tl) = none := by
        rw [← Option.not_isSome_iff_eq_none, lookupEntry_isSome]
        intro hmem
        rcases List.mem_cons.1 hmem with rfl | hmem
        · simp [Std.ReflCmp.compare_self] at hlt
        · obtain ⟨e, he, rfl⟩ := List.mem_map.1 hmem
          have hcycle := Std.TransCmp.lt_trans hlt (hl.1 e he)
          simp [Std.ReflCmp.compare_self] at hcycle
      rw [habsent]
      simp
      omega
    case h_2 heq =>
      obtain rfl : k = k' := Std.LawfulEqCmp.eq_of_compare heq
      simp [lookupEntry]
      omega
    case h_3 hgt =>
      have hne : k' ≠ k := by
        rintro rfl
        simp [Std.ReflCmp.compare_self] at hgt
      simp only [lookupEntry, if_neg hne, List.map_cons, List.sum_cons]
      omega

theorem sum_values_insert (m : KeyMap κ Nat) (k : κ) (n : Nat) :
    (m.insert k ((m.get? k).getD 0 + n)).values.sum = m.values.sum + n := by
  have hsum : (m.insert k ((m.get? k).getD 0 + n)).values.sum + (m.get? k).getD 0 =
      m.values.sum + ((m.get? k).getD 0 + n) := sum_insertEntry k _ m.ascending
  omega

end KeyMap

/-! ### Single notes -/

/-- The label under which a family counts what is told, if it does. -/
def Family.label? : Family → Note → Option String
  | .provisions, .provisioned kind _ => some (kindLabel kind)
  | .provisionFailures, .provisioned kind false => some (kindLabel kind)
  | .deletes, .deleted kind _ => some kind.name
  | .deleteFailures, .deleted kind false => some kind.name
  | _, _ => none

namespace Metrics

variable {m : Metrics} {f : Family} {label : String} {n : Note} {t u : List Event}

/-- The sum of all rows of a family. -/
def total (m : Metrics) (f : Family) : Nat := (m.rows f).values.sum

/-- What is told adds one to the row of its label in every family that counts it. -/
theorem rows_observe (m : Metrics) (n : Note) (f : Family) :
    (m.observe n).rows f = match f.label? n with
      | none => m.rows f
      | some label => (m.rows f).insert label (m.count f label + 1) := by
  cases n with
  | log severity text => cases f <;> rfl
  | provisioned kind ok => cases ok <;> cases f <;> rfl
  | deleted kind ok => cases ok <;> cases f <;> rfl

theorem count_observe (m : Metrics) (n : Note) (f : Family) (label : String) :
    (m.observe n).count f label = m.count f label + if f.label? n = some label then 1 else 0 := by
  unfold count
  rw [rows_observe]
  cases f.label? n with
  | none => rfl
  | some found =>
    rw [KeyMap.get?_insert]
    by_cases hlabel : found = label
    · subst hlabel
      simp [count]
    · simp [hlabel]

theorem total_observe (m : Metrics) (n : Note) (f : Family) :
    (m.observe n).total f = m.total f + if (f.label? n).isSome then 1 else 0 := by
  unfold total
  rw [rows_observe]
  cases f.label? n with
  | none => rfl
  | some label => exact KeyMap.sum_values_insert (m.rows f) label 1

theorem contains_observe (m : Metrics) (n : Note) (f : Family) (label : String) :
    ((m.observe n).rows f).contains label = ((m.rows f).contains label || f.label? n = some label) := by
  rw [rows_observe]
  cases f.label? n with
  | none => simp
  | some found =>
    unfold KeyMap.contains
    rw [KeyMap.get?_insert]
    by_cases hlabel : found = label <;> simp [hlabel]

/-! ### Events in turn -/

/-- The counters when they have heard all that is told in a list of events. -/
def heard (m : Metrics) (t : List Event) : Metrics := (notes t).foldl observe m

theorem heard_eq (m : Metrics) (t : List Event) : m.heard t = (reports t).foldl observe m := by
  unfold heard reports
  induction notes t generalizing m with
  | nil => rfl
  | cons n rest ih =>
    cases n with
    | log severity text => exact ih m
    | provisioned kind ok => exact ih _
    | deleted kind ok => exact ih _

theorem foldl_observe_eq_add_countP (g : Metrics → Nat) (counts : Note → Prop) [DecidablePred counts]
    (hstep : ∀ m n, g (m.observe n) = g m + if counts n then 1 else 0) (m : Metrics) (ns : List Note) :
    g (ns.foldl observe m) = g m + ns.countP counts := by
  induction ns generalizing m with
  | nil => rfl
  | cons n rest ih =>
    rw [List.foldl_cons, ih, hstep, List.countP_cons, Nat.add_assoc, Nat.add_comm (rest.countP _)]
    simp only [decide_eq_true_eq]

/-- The count of a row is the number of reports that are counted under its label. -/
theorem count_heard (t : List Event) (f : Family) (label : String) :
    (heard {} t).count f label = (reports t).countP fun n => f.label? n = some label := by
  have hnone : ({} : Metrics).count f label = 0 := by cases f <;> rfl
  have hfold := foldl_observe_eq_add_countP (·.count f label) (fun n => f.label? n = some label)
    (fun m n => count_observe m n f label) {} (reports t)
  rw [heard_eq, hfold, hnone, Nat.zero_add]

/-- The sum of all rows is the number of reports that are counted at all. -/
theorem total_heard (t : List Event) (f : Family) :
    (heard {} t).total f = (reports t).countP fun n => (f.label? n).isSome := by
  have hnone : ({} : Metrics).total f = 0 := by cases f <;> rfl
  have hfold := foldl_observe_eq_add_countP (·.total f) (fun n => (f.label? n).isSome)
    (fun m n => total_observe m n f) {} (reports t)
  rw [heard_eq, hfold, hnone, Nat.zero_add]
  simp only [Bool.decide_eq_true]

theorem contains_heard (t : List Event) (f : Family) (label : String) :
    ((heard {} t).rows f).contains label = (reports t).any fun n => f.label? n = some label := by
  have hfold (ns : List Note) (m : Metrics) : ((ns.foldl observe m).rows f).contains label =
      ((m.rows f).contains label || ns.any fun n => f.label? n = some label) := by
    induction ns generalizing m with
    | nil => simp
    | cons n rest ih => rw [List.foldl_cons, ih, contains_observe, List.any_cons, Bool.or_assoc]
  have hnone : (({} : Metrics).rows f).contains label = false := by cases f <;> rfl
  rw [heard_eq, hfold, hnone, Bool.false_or]

end Metrics

/-! ### Labels -/

/-- The labels of the two kinds, and the one of calls whose kind has not been found out. -/
def kindLabels : List String := ["hostpath", "device", "unknown"]

theorem kindLabel_mem (kind : Option StorageKind) : kindLabel kind ∈ kindLabels := by
  rcases kind with _ | _ | _ <;> decide

namespace Family

variable {f : Family} {n : Note} {label : String}

theorem mem_kindLabels (h : f.label? n = some label) : label ∈ kindLabels := by
  unfold label? at h
  split at h
  · exact Option.some.inj h ▸ kindLabel_mem _
  · exact Option.some.inj h ▸ kindLabel_mem _
  · exact Option.some.inj h ▸ kindLabel_mem (some _)
  · exact Option.some.inj h ▸ kindLabel_mem (some _)
  · cases h

theorem label?_provisions_of_failure (h : provisionFailures.label? n = some label) :
    provisions.label? n = some label := by
  cases n with
  | log severity text => cases h
  | deleted kind ok => cases h
  | provisioned kind ok =>
    cases ok with
    | true => cases h
    | false => exact h

theorem label?_deletes_of_failure (h : deleteFailures.label? n = some label) :
    deletes.label? n = some label := by
  cases n with
  | log severity text => cases h
  | provisioned kind ok => cases h
  | deleted kind ok =>
    cases ok with
    | true => cases h
    | false => exact h

theorem label?_unknown_iff (hn : ∀ ok, n = .provisioned none ok → ok = false) :
    provisionFailures.label? n = some "unknown" ↔ provisions.label? n = some "unknown" := by
  refine ⟨label?_provisions_of_failure, fun h => ?_⟩
  cases n with
  | log severity text => cases h
  | deleted kind ok => cases h
  | provisioned kind ok =>
    rcases kind with _ | _ | _
    · rw [hn ok rfl]
      rfl
    · exact absurd (Option.some.inj h) (by decide)
    · exact absurd (Option.some.inj h) (by decide)

end Family

/-! ### Calls in turn -/

namespace EngineCall

/-- Tells the calls that provision a volume. -/
def isProvision : EngineCall → Bool
  | provision _ => true
  | delete _ => false

/-- Tells the calls that delete a persistent volume whose record can be read and is not to be retained. -/
def isRemoval : EngineCall → Bool
  | provision _ => false
  | delete pv =>
    match VolumeRecord.ofPersistentVolume pv with
    | .ok record => !record.isRetained
    | .error _ => false

end EngineCall

/-- Tells whether a call has failed. -/
def Turn.failed (turn : Turn) : Bool := !turn.result.isOk

/-- Tells whether a family is to count a call. -/
def Family.concerns : Family → Turn → Bool
  | .provisions, turn => turn.call.isProvision
  | .provisionFailures, turn => turn.call.isProvision && turn.failed
  | .deletes, turn => turn.call.isRemoval
  | .deleteFailures, turn => turn.call.isRemoval && turn.failed

/-- What a call reports: one outcome of the kind of call that it is, if it is to be counted at all. -/
inductive Turn.Reports (turn : Turn) : List Note → Prop
  | provisioned {kind : Option StorageKind} : turn.call.isProvision = true →
      turn.call.isRemoval = false → (kind = none → turn.failed = true) →
      Reports turn [.provisioned kind (!turn.failed)]
  | deleted {kind : StorageKind} : turn.call.isProvision = false → turn.call.isRemoval = true →
      Reports turn [.deleted kind (!turn.failed)]
  | nothing : turn.call.isProvision = false → turn.call.isRemoval = false → Reports turn []

theorem Turn.reports (turn : Turn) : turn.Reports (NodeVolumes.reports turn.events) := by
  obtain ⟨settings, call, t, r, hpath⟩ := turn
  cases call with
  | provision request =>
    obtain ⟨kind, hreports, hkind⟩ := reports_provision hpath
    rw [hreports, ← Bool.not_not r.isOk]
    exact .provisioned rfl rfl fun hnone => by simp [Turn.failed, hkind hnone]
  | delete pv =>
    have hreports := reports_delete hpath
    rw [hreports]
    cases hrecord : VolumeRecord.ofPersistentVolume pv with
    | error e => exact .nothing rfl (by simp [EngineCall.isRemoval, hrecord])
    | ok record =>
      dsimp only
      cases hretained : record.isRetained with
      | true => exact .nothing rfl (by simp [EngineCall.isRemoval, hrecord, hretained])
      | false =>
        rw [← Bool.not_not r.isOk]
        exact .deleted rfl (by simp [EngineCall.isRemoval, hrecord, hretained])

/-- The families that are to count a call have one report of it, the others none. -/
theorem Turn.Reports.countP_eq {turn : Turn} {ns : List Note} (h : turn.Reports ns) (f : Family) :
    ns.countP (fun n => (f.label? n).isSome) = (f.concerns turn).toNat := by
  cases h with
  | provisioned hprovision hremoval _ =>
    cases hfailed : turn.failed <;> cases f <;> simp [Family.concerns, Family.label?, *]
  | deleted hprovision hremoval =>
    cases hfailed : turn.failed <;> cases f <;> simp [Family.concerns, Family.label?, *]
  | nothing hprovision hremoval => cases f <;> simp [Family.concerns, *]

theorem Turn.Reports.eq_false_of_mem {turn : Turn} {ns : List Note} (h : turn.Reports ns) {ok : Bool}
    (hmem : .provisioned none ok ∈ ns) : ok = false := by
  cases h with
  | provisioned _ _ hkind =>
    obtain ⟨rfl, rfl⟩ := Note.provisioned.inj (List.mem_singleton.1 hmem)
    rw [hkind rfl]
    rfl
  | deleted _ _ => cases List.mem_singleton.1 hmem
  | nothing _ _ => cases hmem

theorem reports_eventsOf (turns : List Turn) :
    reports (eventsOf turns) = turns.flatMap fun turn => reports turn.events := by
  induction turns with
  | nil => rfl
  | cons turn turns ih => rw [eventsOf_cons, reports_append, ih, List.flatMap_cons]

theorem total_eventsOf (turns : List Turn) (f : Family) :
    (Metrics.heard {} (eventsOf turns)).total f = turns.countP f.concerns := by
  rw [Metrics.total_heard]
  induction turns with
  | nil => rfl
  | cons turn turns ih =>
    rw [eventsOf_cons, reports_append, List.countP_append, ih, turn.reports.countP_eq f,
      List.countP_cons, Nat.add_comm]
    cases f.concerns turn <;> rfl

/-- What the counters say after calls in turn, whatever came of them, when they have not counted before.

They have counted every provision call, and every delete call with something to remove, and among the
failures those of them that have failed. Under no label there are more failures than calls. There are no
labels but those of the two kinds and the one for calls whose kind has not been found out, and under the latter
every provision call is a failure. -/
theorem outcomes_are_counted (turns : List Turn) :
    let counted := Metrics.heard {} (eventsOf turns)
    counted.total .provisions = turns.countP (·.call.isProvision) ∧
    counted.total .provisionFailures = turns.countP (fun turn => turn.call.isProvision && turn.failed) ∧
    counted.total .deletes = turns.countP (·.call.isRemoval) ∧
    counted.total .deleteFailures = turns.countP (fun turn => turn.call.isRemoval && turn.failed) ∧
    (∀ label, counted.count .provisionFailures label ≤ counted.count .provisions label ∧
      counted.count .deleteFailures label ≤ counted.count .deletes label) ∧
    (∀ f label, (counted.rows f).contains label = true → label ∈ kindLabels) ∧
    counted.count .provisionFailures "unknown" = counted.count .provisions "unknown" := by
  intro counted
  refine ⟨total_eventsOf turns .provisions, total_eventsOf turns .provisionFailures,
    total_eventsOf turns .deletes, total_eventsOf turns .deleteFailures, fun label => ⟨?_, ?_⟩, ?_, ?_⟩
  · rw [Metrics.count_heard, Metrics.count_heard]
    refine List.countP_mono_left fun n _ hfailure => ?_
    exact decide_eq_true (Family.label?_provisions_of_failure (of_decide_eq_true hfailure))
  · rw [Metrics.count_heard, Metrics.count_heard]
    refine List.countP_mono_left fun n _ hfailure => ?_
    exact decide_eq_true (Family.label?_deletes_of_failure (of_decide_eq_true hfailure))
  · intro f label hrow
    rw [Metrics.contains_heard] at hrow
    obtain ⟨n, -, hn⟩ := List.any_eq_true.1 hrow
    exact Family.mem_kindLabels (of_decide_eq_true hn)
  · rw [Metrics.count_heard, Metrics.count_heard]
    refine List.countP_congr fun n hn => ?_
    rw [decide_eq_true_iff, decide_eq_true_iff]
    refine Family.label?_unknown_iff fun ok hok => ?_
    rw [reports_eventsOf] at hn
    obtain ⟨turn, -, hturn⟩ := List.mem_flatMap.1 hn
    exact turn.reports.eq_false_of_mem (hok ▸ hturn)

/-- A volume of a kind that is not supported is counted as unknown, and one that is removed under its own kind. -/
example :
    let turns := [Turn.inMemory Small.settings false (Small.cluster "- name: StorageType\n  value: zfs\n")
        (.provision (Small.request "node-1")),
      Turn.inMemory Small.settings false (Small.cluster "") (.delete (Small.volume "/var/local/pvc-1"))]
    let counted := Metrics.heard {} (eventsOf turns)
    counted.provisions.toList = [("unknown", 1)] ∧ counted.provisionFailures.toList = [("unknown", 1)] ∧
      counted.deletes.toList = [("hostpath", 1)] ∧ counted.deleteFailures.toList = [] := by
  decide +kernel

/-! ### On a stage -/

namespace Simulation

variable {α : Type}

/-- Two stages have the same counters, and both or none of them hear what is told. -/
def SameCounters (s s' : EngineStage) : Prop := s'.metrics = s.metrics ∧ s'.counting = s.counting

theorem SameCounters.trans {s s' s'' : EngineStage} (h : SameCounters s s') (h' : SameCounters s' s'') :
    SameCounters s s'' := ⟨h'.1.trans h.1, h'.2.trans h.2⟩

theorem sameCounters_prepareAll (s : EngineStage) (ps : List (Preparation Cluster.Memory Error)) :
    SameCounters s (s.prepareAll ps) := by
  unfold Stage.prepareAll
  induction ps generalizing s with
  | nil => exact ⟨rfl, rfl⟩
  | cons p ps ih =>
    have hfirst : SameCounters s (s.prepare p) := by cases p <;> exact ⟨rfl, rfl⟩
    exact hfirst.trans (ih _)

theorem sameCounters_disturb (s : EngineStage) (hooks : List (Hook Cluster.Memory Error)) :
    SameCounters s (EngineStage.disturb s hooks).2 := by
  induction hooks generalizing s with
  | nil => exact ⟨rfl, rfl⟩
  | cons h rest ih =>
    have hprepared := sameCounters_prepareAll s h.before
    unfold EngineStage.disturb
    dsimp only
    split
    · exact hprepared
    · exact hprepared.trans (ih _)

theorem sameCounters_answer (c : Call) (s : EngineStage) :
    SameCounters s (EngineStage.answer c s).2 := by
  have hdisturbed := sameCounters_disturb (s.strike c.name c.object).2 (s.strike c.name c.object).1
  unfold EngineStage.answer
  dsimp only
  split
  case h_1 heq =>
    rw [heq] at hdisturbed
    exact hdisturbed
  case h_2 heq =>
    rw [heq] at hdisturbed
    exact hdisturbed

/-- While the counters of a stage hear what is told, they are those that have heard the events. -/
theorem metrics_run (p : Engine α) (s : EngineStage) (h : s.counting = true) :
    (engineWorld.run p s).2.metrics = s.metrics.heard (engineWorld.trace p s) ∧
      (engineWorld.run p s).2.counting = true := by
  induction p generalizing s with
  | done a => exact ⟨rfl, h⟩
  | call c next ih =>
    obtain ⟨hmetrics, hcounting⟩ := sameCounters_answer c s
    have hrest := ih (EngineStage.answer c s).1 (EngineStage.answer c s).2 (hcounting.trans h)
    rw [hmetrics] at hrest
    exact hrest
  | sleep ms next ih =>
    simp only [World.run, World.trace]
    split
    · exact ih true s h
    · exact ih false (engineWorld.pass ms s) h
  | poll next ih => exact ih _ s h
  | note n next ih =>
    have hheard : (Stage.hear n s).metrics = s.metrics.observe n ∧ (Stage.hear n s).counting = true := by
      unfold Stage.hear
      rw [if_pos h]
      cases n <;> exact ⟨rfl, h⟩
    have hrest := ih (Stage.hear n s) hheard.2
    rw [hheard.1] at hrest
    exact hrest

end Simulation
end NodeVolumes
