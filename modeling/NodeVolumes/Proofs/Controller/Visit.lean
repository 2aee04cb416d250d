import NodeVolumes.Proofs.Controller.Work

/-! # Visits

In a pass the controller visits listed objects one after the other, and looks before each visit whether it has
been cancelled.

* `Visits f p visits q`: visits by `f` in turn, each going on from what the one before has parked.
* `path_untilCancelled`: the visits follow the list, and only a cancellation cuts it short.
* `provisions`, `creations` and `isAside` tell what happens to volumes. -/

namespace NodeVolumes.Controller

open Work (Path)

/-! ### Events about volumes -/

/-- Tells the calls that write persistent volumes. -/
def writesVolume : Api.Call → Bool
  | .create .persistentVolume .. | .replace .persistentVolume .. | .delete .persistentVolume ..
  | .patch .persistentVolume .. => true
  | _ => false

/-- Tells the events that neither hand anything to the engine nor write persistent volumes. -/
def isAside : Event → Bool
  | .called (.api c) _ => !writesVolume c
  | .called (.provision _) _ | .called (.delete _) _ => false
  | .slept .. | .polled _ | .told _ => true

/-- Tells the events of visits to claims: besides asides, volumes are provisioned and persistent volumes
created. -/
def isForClaims : Event → Bool
  | .called (.provision _) _ | .called (.api (.create .persistentVolume ..)) _ => true
  | e => isAside e

/-- The request and the outcome of a provision call. -/
def provision? : Event → Option (ProvisionRequest × Except Error LocalVolume)
  | .called (.provision request) reply => some (request, reply)
  | _ => none

/-- The persistent volume that is created. -/
def creation? : Event → Option PersistentVolume
  | .called (.api (.create .persistentVolume _ pv)) _ => some pv
  | _ => none

/-- The provision calls among events, in order. -/
def provisions (t : List Event) : List (ProvisionRequest × Except Error LocalVolume) :=
  t.filterMap provision?

/-- The persistent volumes that are created among events, in order. -/
def creations (t : List Event) : List PersistentVolume := t.filterMap creation?

section
variable {t u : List Event}

@[simp] theorem provisions_append : provisions (t ++ u) = provisions t ++ provisions u :=
  List.filterMap_append

@[simp] theorem creations_append : creations (t ++ u) = creations t ++ creations u :=
  List.filterMap_append

@[simp] theorem provisions_provision_cons {request : ProvisionRequest}
    {outcome : Except Error LocalVolume} :
    provisions (.called (.provision request) outcome :: t) = (request, outcome) :: provisions t := rfl

@[simp] theorem provisions_api_cons {c : Api.Call} {reply : Api.Reply c} :
    provisions (.called (.api c) reply :: t) = provisions t := rfl

@[simp] theorem creations_provision_cons {request : ProvisionRequest}
    {outcome : Except Error LocalVolume} :
    creations (.called (.provision request) outcome :: t) = creations t := rfl

@[simp] theorem creations_create_cons {ns : Option String} {pv : PersistentVolume}
    {reply : Api.Reply (.create .persistentVolume ns pv)} :
    creations (.called (.api (.create .persistentVolume ns pv)) reply :: t) = pv :: creations t := rfl

theorem mem_provisions_iff {request : ProvisionRequest} {outcome : Except Error LocalVolume} :
    (request, outcome) ∈ provisions t ↔ .called (.provision request) outcome ∈ t := by
  unfold provisions
  rw [List.mem_filterMap]
  constructor
  · rintro ⟨e, he, hprovision⟩
    unfold provision? at hprovision
    split at hprovision
    · cases hprovision
      exact he
    · cases hprovision
  · intro h
    exact ⟨_, h, rfl⟩

theorem isForClaims_of_isAside {e : Event} (h : isAside e = true) : isForClaims e = true := by
  unfold isForClaims
  split
  · rfl
  · rfl
  · exact h

theorem provision?_of_isAside {e : Event} (h : isAside e = true) : provision? e = none := by
  cases e with
  | called k r =>
    cases k with
    | api c => rfl
    | provision request => cases h
    | delete pv => cases h
  | slept ms cut => rfl
  | polled b => rfl
  | told n => rfl

theorem creation?_of_isAside {e : Event} (h : isAside e = true) : creation? e = none := by
  cases e with
  | called k r =>
    cases k with
    | api c =>
      cases c with
      | create kind ns object =>
        cases kind with
        | persistentVolume => cases h
        | _ => rfl
      | _ => rfl
    | provision request => rfl
    | delete pv => rfl
  | slept ms cut => rfl
  | polled b => rfl
  | told n => rfl

theorem provisions_of_isAside (h : ∀ e ∈ t, isAside e = true) : provisions t = [] :=
  List.filterMap_eq_nil_iff.2 fun e he => provision?_of_isAside (h e he)

theorem creations_of_isAside (h : ∀ e ∈ t, isAside e = true) : creations t = [] :=
  List.filterMap_eq_nil_iff.2 fun e he => creation?_of_isAside (h e he)

end

/-! ### Visits in turn -/

variable {α : Type}

/-- The visit to one object of a list. -/
structure Visit (α : Type) where
  item : α
  /-- What is parked before the visit. -/
  before : Parked
  events : List Event
  /-- What is parked after it. -/
  after : Parked

/-- Visits by a program one after the other. -/
inductive Visits (f : α → Work Unit) : Parked → List (Visit α) → Parked → Prop
  | nil (p : Parked) : Visits f p [] p
  | cons {a : α} {p p' q : Parked} {t : List Event} {visits : List (Visit α)} :
      Path (f a) p t () p' → Visits f p' visits q → Visits f p (⟨a, p, t, p'⟩ :: visits) q

/-- What happens in visits, with the look for a cancellation before each of them. -/
def eventsIn (visits : List (Visit α)) : List Event := visits.flatMap fun v => .polled false :: v.events

/-- What happens when visits end: when they are cut short, a look has found the cancellation. -/
def ending (cancelled : Bool) : List Event := if cancelled then [.polled true] else []

variable {f : α → Work Unit} {p q : Parked} {t : List Event}

/-- The visits follow the list, and only a cancellation cuts it short. -/
theorem path_untilCancelled {items : List α} {cancelled : Bool}
    (h : Path (untilCancelled f items) p t cancelled q) :
    ∃ visits rest, items = visits.map (·.item) ++ rest ∧ Visits f p visits q ∧
      (cancelled = true ↔ rest ≠ []) ∧ t = eventsIn visits ++ ending cancelled := by
  induction items generalizing p t with
  | nil =>
    obtain ⟨rfl, rfl, rfl⟩ := Work.path_pure_iff.1 h
    exact ⟨[], [], rfl, .nil _, by simp, rfl⟩
  | cons a items ih =>
    unfold untilCancelled at h
    obtain ⟨c, u, rfl, h₁⟩ := Work.path_isCancelled_bind_iff.1 h
    cases c with
    | true =>
      obtain ⟨rfl, rfl, rfl⟩ := Work.path_pure_iff.1 h₁
      exact ⟨[], a :: items, rfl, .nil _, by simp, rfl⟩
    | false =>
      obtain ⟨v, w, _, p', rfl, hvisit, hrest⟩ := Work.path_bind_iff.1 h₁
      obtain ⟨visits, rest, rfl, hvisits, hcancelled, rfl⟩ := ih hrest
      refine ⟨⟨a, p, v, p'⟩ :: visits, rest, rfl, .cons hvisit hvisits, hcancelled, ?_⟩
      unfold eventsIn
      rw [List.flatMap_cons, List.cons_append, List.cons_append, List.append_assoc]

theorem Visits.path_of_mem {visits : List (Visit α)} (h : Visits f p visits q) :
    ∀ v ∈ visits, Path (f v.item) v.before v.events () v.after := by
  induction h with
  | nil p => simp
  | cons hvisit _ ih => exact List.forall_mem_cons.2 ⟨hvisit, ih⟩

theorem Visits.of_append {visits visits' : List (Visit α)} (h : Visits f p (visits ++ visits') q) :
    ∃ p', Visits f p visits p' ∧ Visits f p' visits' q := by
  induction visits generalizing p with
  | nil => exact ⟨p, .nil p, h⟩
  | cons v visits ih =>
    cases h with
    | cons hvisit hrest =>
      obtain ⟨p', hfirst, hsecond⟩ := ih hrest
      exact ⟨p', .cons hvisit hfirst, hsecond⟩

theorem provisions_eventsIn (visits : List (Visit α)) :
    provisions (eventsIn visits) = visits.flatMap fun v => provisions v.events := by
  induction visits with
  | nil => rfl
  | cons v visits ih =>
    unfold eventsIn at ih ⊢
    rw [List.flatMap_cons, List.flatMap_cons, provisions_append, ih]
    rfl

theorem creations_eventsIn (visits : List (Visit α)) :
    creations (eventsIn visits) = visits.flatMap fun v => creations v.events := by
  induction visits with
  | nil => rfl
  | cons v visits ih =>
    unfold eventsIn at ih ⊢
    rw [List.flatMap_cons, List.flatMap_cons, creations_append, ih]
    rfl

theorem exists_visit_of_eventsIn {visits : List (Visit α)} {pre post : List Event} {k : Task} {r : k.Reply}
    (h : eventsIn visits = pre ++ .called k r :: post) :
    ∃ earlier v later u w, visits = earlier ++ v :: later ∧ v.events = u ++ .called k r :: w ∧
      pre = eventsIn earlier ++ .polled false :: u ∧ post = w ++ eventsIn later := by
  induction visits generalizing pre with
  | nil => simp [eventsIn] at h
  | cons v visits ih =>
    have hcons : eventsIn (v :: visits) = .polled false :: v.events ++ eventsIn visits := List.flatMap_cons
    rw [hcons] at h
    rcases Program.append_eq_append_cons h with ⟨w, hw, rfl⟩ | ⟨w, rfl, hw⟩
    · cases pre with
      | nil => cases hw
      | cons e pre =>
        obtain ⟨rfl, hevents⟩ := List.cons.inj (hw.trans (List.cons_append ..))
        exact ⟨[], v, visits, pre, w, rfl, hevents, rfl, rfl⟩
    · obtain ⟨earlier, found, later, u, x, rfl, hfound, rfl, rfl⟩ := ih hw
      refine ⟨v :: earlier, found, later, u, x, rfl, hfound, ?_, rfl⟩
      have hfirst : eventsIn (v :: earlier) = .polled false :: v.events ++ eventsIn earlier :=
        List.flatMap_cons
      rw [hfirst, List.append_assoc]

theorem isAside_ending {cancelled : Bool} : ∀ e ∈ ending cancelled, isAside e = true := by
  cases cancelled with
  | true => simp [ending, isAside]
  | false => simp [ending]

end NodeVolumes.Controller
