import Mathlib.Control.Monad.Basic
import NodeVolumes.Cluster.Call
import NodeVolumes.Proofs.Program.Path

/-! # Paths of engine programs

The paths of programs that may fail, step by step. Every engine program is made of these steps, so its
paths are found by rewriting with them.

* `Attempt.path_bind_iff`: the second of two programs in turn only runs when the first has not failed.
* `Attempt.Always P x`: what happens on every path of `x` has the property `P`. The rules for it follow
  the steps of a program. -/

namespace NodeVolumes

namespace Cluster

/-- Something that happens while an engine program runs. -/
abbrev Event : Type := Program.Event Call Reply Note

instance (c : Call) : DecidableEq (Reply c) :=
  match c with
  | .getStorageClass _ => inferInstanceAs (DecidableEq (Except Error StorageClass))
  | .listNodes _ => inferInstanceAs (DecidableEq (Except Error (List Node)))
  | .createPod .. | .getPod .. => inferInstanceAs (DecidableEq (Except Error Pod))
  | .deletePod .. | .deleteClaim .. => inferInstanceAs (DecidableEq (Except Error Unit))
  | .listPods _ => inferInstanceAs (DecidableEq (Except Error (List Pod)))
  | .getClaim .. | .createClaim .. | .replaceClaim .. =>
    inferInstanceAs (DecidableEq (Except Error BlockDeviceClaim))
  | .listClaims _ => inferInstanceAs (DecidableEq (Except Error (List BlockDeviceClaim)))
  | .getBlockDevice .. => inferInstanceAs (DecidableEq (Except Error BlockDevice))

theorem error_mem_ok_cons {c d : Call} {e : Error} {a : d.Answer} {t : List Event} :
    .called c (.error e) ∈ .called d (.ok a) :: t ↔ .called c (.error e) ∈ t := by
  rw [List.mem_cons]
  refine ⟨fun h => h.resolve_left fun heq => ?_, .inr⟩
  cases heq

end Cluster

namespace Attempt

open Cluster (Call Event Reply)

variable {α β : Type}

/-- `Path x t r`: the events `t` may happen while `x` runs to its end, and then its outcome is `r`. -/
def Path (x : Attempt α) (t : List Event) (r : Except Error α) : Prop := Program.Path x.run t r

/-! ### Programs in turn -/

/-- A path of two programs in turn ends where the first fails, or goes on with the second. -/
theorem path_bind_iff {x : Attempt α} {f : α → Attempt β} {t : List Event} {r : Except Error β} :
    Path (x >>= f) t r ↔
      (∃ e, x.Path t (.error e) ∧ r = .error e) ∨
        ∃ u v a, t = u ++ v ∧ x.Path u (.ok a) ∧ (f a).Path v r := by
  unfold Path
  rw [ExceptT.run_bind, Program.path_bind_iff]
  constructor
  · rintro ⟨u, v, a, rfl, hu, hv⟩
    cases a with
    | error e =>
      obtain ⟨rfl, rfl⟩ := Program.path_done_iff.1 hv
      exact .inl ⟨e, by simpa using hu, rfl⟩
    | ok a => exact .inr ⟨u, v, a, rfl, hu, hv⟩
  · rintro (⟨e, hu, rfl⟩ | ⟨u, v, a, rfl, hu, hv⟩)
    · exact ⟨t, [], .error e, by simp, hu, .done _⟩
    · exact ⟨u, v, .ok a, rfl, hu, hv⟩

@[simp] theorem path_pure_iff {a : α} {t : List Event} {r : Except Error α} :
    Path (pure a) t r ↔ t = [] ∧ r = .ok a := Program.path_done_iff

@[simp] theorem path_throw_iff {e : Error} {t : List Event} {r : Except Error α} :
    Path (throw e) t r ↔ t = [] ∧ r = .error e := Program.path_done_iff

/-! ### Single steps -/

@[simp] theorem path_check_iff {x r : Except Error α} {t : List Event} :
    Path (check x) t r ↔ t = [] ∧ r = x := Program.path_done_iff

@[simp] theorem path_call_iff {c : Call} {t : List Event} {r : Reply c} :
    Path (call c) t r ↔ t = [.called c r] := by
  unfold Path call Program.ask
  rw [ExceptT.run_mk, Program.path_call_iff]
  constructor
  · rintro ⟨r', u, rfl, h⟩
    obtain ⟨rfl, rfl⟩ := Program.path_done_iff.1 h
    rfl
  · rintro rfl
    exact ⟨r, [], rfl, .done r⟩

theorem path_lift_iff {p : Engine α} {t : List Event} {r : Except Error α} :
    Path (ExceptT.lift p) t r ↔ ∃ a, p.Path t a ∧ r = .ok a := by
  unfold Path
  rw [ExceptT.run_lift, ← bind_pure_comp, Program.path_bind_iff]
  constructor
  · rintro ⟨u, v, a, rfl, hu, hv⟩
    obtain ⟨rfl, rfl⟩ := Program.path_done_iff.1 hv
    exact ⟨a, by simpa using hu, rfl⟩
  · rintro ⟨a, h, rfl⟩
    exact ⟨t, [], a, by simp, h, .done _⟩

@[simp] theorem path_reply_iff {c : Call} {t : List Event} {r : Except Error (Reply c)} :
    Path (reply c) t r ↔ ∃ a, t = [.called c a] ∧ r = .ok a := by
  unfold reply
  rw [path_lift_iff]
  exact exists_congr fun a => and_congr_left fun _ => path_call_iff

@[simp] theorem path_outcome_iff {x : Attempt α} {t : List Event}
    {r : Except Error (Except Error α)} : Path x.outcome t r ↔ ∃ a, x.Path t a ∧ r = .ok a :=
  path_lift_iff

@[simp] theorem path_warn_iff {text : String} {t : List Event} {r : Except Error Unit} :
    Path (warn text) t r ↔ t = [.told (.log .warning text)] ∧ r = .ok () := by
  unfold warn Program.tell
  rw [path_lift_iff]
  constructor
  · rintro ⟨a, h, rfl⟩
    obtain ⟨u, rfl, hd⟩ := Program.path_note_iff.1 h
    obtain ⟨rfl, rfl⟩ := Program.path_done_iff.1 hd
    exact ⟨rfl, rfl⟩
  · rintro ⟨rfl, rfl⟩
    exact ⟨(), .note (.done ()), rfl⟩

@[simp] theorem path_callOr_iff {c : Call} {reword : Error → Error} {t : List Event}
    {r : Except Error c.Answer} :
    Path (callOr c reword) t r ↔ ∃ a : Reply c, t = [.called c a] ∧ r = a.mapError reword := by
  unfold callOr
  rw [path_bind_iff]
  constructor
  · rintro (⟨e, h, rfl⟩ | ⟨u, v, a, rfl, hu, hv⟩)
    · obtain ⟨a, -, h⟩ := path_reply_iff.1 h
      cases h
    · obtain ⟨a, rfl, h⟩ := path_reply_iff.1 hu
      cases h
      cases a with
      | ok a =>
        obtain ⟨rfl, rfl⟩ := path_pure_iff.1 hv
        exact ⟨.ok a, rfl, rfl⟩
      | error e =>
        obtain ⟨rfl, rfl⟩ := path_throw_iff.1 hv
        exact ⟨.error e, rfl, rfl⟩
  · rintro ⟨a, rfl, rfl⟩
    refine .inr ⟨[.called c a], [], a, rfl, path_reply_iff.2 ⟨a, rfl, rfl⟩, ?_⟩
    cases a with
    | ok a => exact path_pure_iff.2 ⟨rfl, rfl⟩
    | error e => exact path_throw_iff.2 ⟨rfl, rfl⟩

@[simp] theorem path_waitOr_iff {ms : Nat} {e : Error} {t : List Event} {r : Except Error Unit} :
    Path (waitOr ms e) t r ↔
      ∃ cut : Bool, t = [.slept ms cut] ∧ r = if cut then .error e else .ok () := by
  unfold waitOr Program.wait
  rw [path_bind_iff]
  constructor
  · rintro (⟨e, h, rfl⟩ | ⟨u, v, cut, rfl, hu, hv⟩)
    · obtain ⟨a, -, h⟩ := path_lift_iff.1 h
      cases h
    · obtain ⟨a, ha, h⟩ := path_lift_iff.1 hu
      cases h
      obtain ⟨_, u, rfl, hd⟩ := Program.path_sleep_iff.1 ha
      obtain ⟨rfl, rfl⟩ := Program.path_done_iff.1 hd
      cases cut with
      | true =>
        obtain ⟨rfl, rfl⟩ := path_throw_iff.1 hv
        exact ⟨true, rfl, rfl⟩
      | false =>
        obtain ⟨rfl, rfl⟩ := path_pure_iff.1 hv
        exact ⟨false, rfl, rfl⟩
  · rintro ⟨cut, rfl, rfl⟩
    refine .inr ⟨[.slept ms cut], [], cut, rfl, path_lift_iff.2 ⟨cut, .sleep (.done cut), rfl⟩, ?_⟩
    cases cut with
    | true => exact path_throw_iff.2 ⟨rfl, rfl⟩
    | false => exact path_pure_iff.2 ⟨rfl, rfl⟩

/-! ### A step and what follows it -/

variable {t : List Event} {r : Except Error β}

theorem path_check_bind_iff {x : Except Error α} {f : α → Attempt β} :
    Path (check x >>= f) t r ↔
      (∃ e, x = .error e ∧ t = [] ∧ r = .error e) ∨ ∃ a, x = .ok a ∧ Path (f a) t r := by
  rw [path_bind_iff]
  constructor
  · rintro (⟨e, h, rfl⟩ | ⟨u, v, a, rfl, hu, hv⟩)
    · obtain ⟨rfl, rfl⟩ := path_check_iff.1 h
      exact .inl ⟨e, rfl, rfl, rfl⟩
    · obtain ⟨rfl, rfl⟩ := path_check_iff.1 hu
      exact .inr ⟨a, rfl, hv⟩
  · rintro (⟨e, rfl, rfl, rfl⟩ | ⟨a, rfl, h⟩)
    · exact .inl ⟨e, path_check_iff.2 ⟨rfl, rfl⟩, rfl⟩
    · exact .inr ⟨[], t, a, rfl, path_check_iff.2 ⟨rfl, rfl⟩, h⟩

theorem path_call_bind_iff {c : Call} {f : c.Answer → Attempt β} :
    Path (call c >>= f) t r ↔
      (∃ e, t = [.called c (.error e)] ∧ r = .error e) ∨
        ∃ a u, t = .called c (.ok a) :: u ∧ Path (f a) u r := by
  rw [path_bind_iff]
  constructor
  · rintro (⟨e, h, rfl⟩ | ⟨u, v, a, rfl, hu, hv⟩)
    · exact .inl ⟨e, path_call_iff.1 h, rfl⟩
    · rw [path_call_iff.1 hu]
      exact .inr ⟨a, v, rfl, hv⟩
  · rintro (⟨e, rfl, rfl⟩ | ⟨a, u, rfl, h⟩)
    · exact .inl ⟨e, path_call_iff.2 rfl, rfl⟩
    · exact .inr ⟨[.called c (.ok a)], u, a, rfl, path_call_iff.2 rfl, h⟩

theorem path_reply_bind_iff {c : Call} {f : Reply c → Attempt β} :
    Path (reply c >>= f) t r ↔ ∃ a u, t = .called c a :: u ∧ Path (f a) u r := by
  rw [path_bind_iff]
  constructor
  · rintro (⟨e, h, rfl⟩ | ⟨u, v, a, rfl, hu, hv⟩)
    · obtain ⟨a, -, h⟩ := path_reply_iff.1 h
      cases h
    · obtain ⟨a, rfl, h⟩ := path_reply_iff.1 hu
      cases h
      exact ⟨a, v, rfl, hv⟩
  · rintro ⟨a, u, rfl, h⟩
    exact .inr ⟨[.called c a], u, a, rfl, path_reply_iff.2 ⟨a, rfl, rfl⟩, h⟩

theorem path_callOr_bind_iff {c : Call} {reword : Error → Error} {f : c.Answer → Attempt β} :
    Path (callOr c reword >>= f) t r ↔
      (∃ e, t = [.called c (.error e)] ∧ r = .error (reword e)) ∨
        ∃ a u, t = .called c (.ok a) :: u ∧ Path (f a) u r := by
  rw [path_bind_iff]
  constructor
  · rintro (⟨e, h, rfl⟩ | ⟨u, v, a, rfl, hu, hv⟩)
    · obtain ⟨a | a, rfl, ha⟩ := path_callOr_iff.1 h
      · cases ha
        exact .inl ⟨a, rfl, rfl⟩
      · cases ha
    · obtain ⟨b | b, rfl, hb⟩ := path_callOr_iff.1 hu
      · cases hb
      · cases hb
        exact .inr ⟨a, v, rfl, hv⟩
  · rintro (⟨e, rfl, rfl⟩ | ⟨a, u, rfl, h⟩)
    · exact .inl ⟨reword e, path_callOr_iff.2 ⟨.error e, rfl, rfl⟩, rfl⟩
    · exact .inr ⟨[.called c (.ok a)], u, a, rfl, path_callOr_iff.2 ⟨.ok a, rfl, rfl⟩, h⟩

theorem path_outcome_bind_iff {x : Attempt α} {f : Except Error α → Attempt β} :
    Path (x.outcome >>= f) t r ↔ ∃ u v a, t = u ++ v ∧ Path x u a ∧ Path (f a) v r := by
  rw [path_bind_iff]
  constructor
  · rintro (⟨e, h, rfl⟩ | ⟨u, v, a, rfl, hu, hv⟩)
    · obtain ⟨a, -, h⟩ := path_outcome_iff.1 h
      cases h
    · obtain ⟨a, hu, h⟩ := path_outcome_iff.1 hu
      cases h
      exact ⟨u, v, a, rfl, hu, hv⟩
  · rintro ⟨u, v, a, rfl, hu, hv⟩
    exact .inr ⟨u, v, a, rfl, path_outcome_iff.2 ⟨a, hu, rfl⟩, hv⟩

theorem path_warn_bind_iff {text : String} {f : Unit → Attempt β} :
    Path (warn text >>= f) t r ↔ ∃ u, t = .told (.log .warning text) :: u ∧ Path (f ()) u r := by
  rw [path_bind_iff]
  constructor
  · rintro (⟨e, h, rfl⟩ | ⟨u, v, a, rfl, hu, hv⟩)
    · obtain ⟨-, h⟩ := path_warn_iff.1 h
      cases h
    · obtain ⟨rfl, -⟩ := path_warn_iff.1 hu
      exact ⟨v, rfl, hv⟩
  · rintro ⟨u, rfl, h⟩
    exact .inr ⟨[.told (.log .warning text)], u, (), rfl, path_warn_iff.2 ⟨rfl, rfl⟩, h⟩

theorem path_waitOr_bind_iff {ms : Nat} {e : Error} {f : Unit → Attempt β} :
    Path (waitOr ms e >>= f) t r ↔
      (t = [.slept ms true] ∧ r = .error e) ∨ ∃ u, t = .slept ms false :: u ∧ Path (f ()) u r := by
  rw [path_bind_iff]
  constructor
  · rintro (⟨e', h, rfl⟩ | ⟨u, v, a, rfl, hu, hv⟩)
    · obtain ⟨cut | cut, rfl, hcut⟩ := path_waitOr_iff.1 h
      · cases hcut
      · cases hcut
        exact .inl ⟨rfl, rfl⟩
    · obtain ⟨cut | cut, rfl, hcut⟩ := path_waitOr_iff.1 hu
      · exact .inr ⟨v, rfl, hv⟩
      · cases hcut
  · rintro (⟨rfl, rfl⟩ | ⟨u, rfl, h⟩)
    · exact .inl ⟨e, path_waitOr_iff.2 ⟨true, rfl, rfl⟩, rfl⟩
    · exact .inr ⟨[.slept ms false], u, (), rfl, path_waitOr_iff.2 ⟨false, rfl, rfl⟩, h⟩

/-! ### Properties of all paths -/

section Always

open Program.Event (calls)

/-- A property of events in turn that holds of what is not a call, and of two parts together when it
holds of each. -/
structure Composable (P : List Event → Prop) : Prop where
  nil : P []
  append : ∀ {t u : List Event}, P t → P u → P (t ++ u)
  silent : ∀ {e : Event}, e.call? = none → P [e]

theorem Composable.of_calls_eq_nil {P : List Event → Prop} (hP : Composable P) {t : List Event}
    (h : calls t = []) : P t := by
  have hsilent : ∀ e ∈ t, e.call? = none := List.filterMap_eq_nil_iff.1 h
  clear h
  induction t with
  | nil => exact hP.nil
  | cons e t ih =>
    have hrest := ih fun d hd => hsilent d (List.mem_cons_of_mem _ hd)
    exact hP.append (hP.silent (hsilent e (List.mem_cons_self ..))) hrest

theorem composable_calls (p : Call → Prop) : Composable fun t => ∀ c ∈ calls t, p c where
  nil := by simp
  append := by
    intro t u ht hu c hc
    rw [Program.Event.calls_append, List.mem_append] at hc
    rcases hc with hc | hc
    · exact ht c hc
    · exact hu c hc
  silent := by
    intro e he c hc
    simp [calls, he] at hc

/-- What happens on every path has the property. -/
def Always (P : List Event → Prop) (x : Attempt α) : Prop := ∀ t r, Path x t r → P t

variable {P : List Event → Prop}

theorem always_call {c : Call} (h : ∀ r, P [.called c r]) : Always P (call c) := by
  intro t r ht
  rw [path_call_iff.1 ht]
  exact h r

theorem always_reply {c : Call} (h : ∀ r, P [.called c r]) : Always P (reply c) := by
  intro t r ht
  obtain ⟨a, rfl, -⟩ := path_reply_iff.1 ht
  exact h a

theorem always_callOr {c : Call} {reword : Error → Error} (h : ∀ r, P [.called c r]) :
    Always P (callOr c reword) := by
  intro t r ht
  obtain ⟨a, rfl, -⟩ := path_callOr_iff.1 ht
  exact h a

theorem always_outcome {x : Attempt α} (h : Always P x) : Always P x.outcome := by
  intro t r ht
  obtain ⟨a, ha, -⟩ := path_outcome_iff.1 ht
  exact h t a ha

variable (hP : Composable P)
include hP

/-- The second program only has to be looked at for results that the first one can have. -/
theorem always_bind_of_path {x : Attempt α} {f : α → Attempt β} (hx : Always P x)
    (hf : ∀ t a, Path x t (.ok a) → Always P (f a)) : Always P (x >>= f) := by
  intro t r ht
  rcases path_bind_iff.1 ht with ⟨e, he, -⟩ | ⟨u, v, a, rfl, hu, hv⟩
  · exact hx t _ he
  · exact hP.append (hx u _ hu) (hf u a hu v r hv)

theorem always_bind {x : Attempt α} {f : α → Attempt β} (hx : Always P x)
    (hf : ∀ a, Always P (f a)) : Always P (x >>= f) :=
  always_bind_of_path hP hx fun _ a _ => hf a

theorem always_pure (a : α) : Always P (pure a) := by
  intro t r ht
  rw [(path_pure_iff.1 ht).1]
  exact hP.nil

theorem always_throw (e : Error) : Always P (throw e : Attempt α) := by
  intro t r ht
  rw [(path_throw_iff.1 ht).1]
  exact hP.nil

theorem always_check (x : Except Error α) : Always P (check x) := by
  intro t r ht
  rw [(path_check_iff.1 ht).1]
  exact hP.nil

theorem always_warn (text : String) : Always P (warn text) := by
  intro t r ht
  rw [(path_warn_iff.1 ht).1]
  exact hP.silent rfl

theorem always_waitOr (ms : Nat) (e : Error) : Always P (waitOr ms e) := by
  intro t r ht
  obtain ⟨cut, rfl, -⟩ := path_waitOr_iff.1 ht
  exact hP.silent rfl

end Always

end Attempt
end NodeVolumes
