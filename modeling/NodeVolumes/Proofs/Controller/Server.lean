import NodeVolumes.Proofs.Controller.Pass

/-! # Passes on the API server

The calls of the API server that passes come to. The engine never touches persistent volumes: what happens to
them is what the controller itself asks for.

* `kind_of_ofEngine`: no call of the engine is about a persistent volume.
* `serverCreations_eq`: the persistent volumes that are created are those that the controller creates.
* `Passes`: passes one after the other, each with its calls of the API server.
* `passes_of_reconcile`: the controller makes passes, with breaks between them. -/

namespace NodeVolumes

namespace Api

/-- Something that happens while a client of the API server runs. -/
abbrev Event : Type := Program.Event Call Reply Note

open Program.Event (calls)

variable {α : Type} {t : List Event}

theorem path_overApi {c : Cluster.Call} {r : Cluster.Reply c} (h : (overApi c).Path t r) :
    ∃ (c' : Call) (reply : Reply c'), t = [.called c' reply] ∧ c'.kind ≠ .persistentVolume := by
  have hsingle {c' : Call} {β : Type} {g : Reply c' → β} {b : β}
      (h : Program.Path (Program.ask c' >>= fun reply => pure (g reply) : Client β) t b)
      (hkind : c'.kind ≠ .persistentVolume) :
      ∃ (c' : Call) (reply : Reply c'), t = [.called c' reply] ∧ c'.kind ≠ .persistentVolume := by
    obtain ⟨reply, u, rfl, hu⟩ := Program.path_call_iff.1 h
    obtain ⟨rfl, -⟩ := Program.path_done_iff.1 hu
    exact ⟨c', reply, rfl, hkind⟩
  cases c with
  | getStorageClass name => exact hsingle h (by simp [Call.kind])
  | listNodes labels => exact hsingle h (by simp [Call.kind])
  | createPod ns pod => exact hsingle h (by simp [Call.kind])
  | getPod ns name => exact hsingle h (by simp [Call.kind])
  | deletePod ns name => exact hsingle h (by simp [Call.kind])
  | listPods ns => exact hsingle h (by simp [Call.kind])
  | getClaim ns name => exact hsingle h (by simp [Call.kind])
  | createClaim ns claim => exact hsingle h (by simp [Call.kind])
  | replaceClaim ns claim => exact hsingle h (by simp [Call.kind])
  | deleteClaim ns name => exact hsingle h (by simp [Call.kind])
  | listClaims ns => exact hsingle h (by simp [Call.kind])
  | getBlockDevice ns name => exact hsingle h (by simp [Call.kind])

/-- The engine makes no call about a persistent volume. -/
theorem kind_of_ofEngine {p : Engine α} {a : α} (h : (ofEngine p).Path t a) :
    ∀ c ∈ calls t, c.kind ≠ .persistentVolume := by
  obtain ⟨u, -, hexpands⟩ := Program.path_substitute_iff.1 h
  clear h
  induction hexpands with
  | nil => simp
  | called hcall _ ih =>
    obtain ⟨c', reply, rfl, hkind⟩ := path_overApi hcall
    intro c hc
    rcases List.mem_cons.1 hc with rfl | hc
    · exact hkind
    · exact ih c hc
  | slept _ ih => exact ih
  | polled _ ih => exact ih
  | told _ ih => exact ih

end Api

namespace Controller

open Program (Expands)
open Program.Event (calls)

variable {o : Options} {p q : Parked} {log : List Event} {t : List Api.Event}

/-! ### Persistent volumes on the server -/

/-- The persistent volume that a call of the API server creates. -/
def serverCreation? : Api.Event → Option PersistentVolume
  | .called (.create .persistentVolume _ pv) _ => some pv
  | _ => none

/-- The persistent volumes that are created on the server, in order. -/
def serverCreations (t : List Api.Event) : List PersistentVolume := t.filterMap serverCreation?

theorem serverCreation?_of_kind {e : Api.Event} (h : ∀ c, e.call? = some c → c.kind ≠ .persistentVolume) :
    serverCreation? e = none := by
  cases e with
  | called c r =>
    have hkind := h c rfl
    cases c with
    | create kind ns object =>
      cases kind with
      | persistentVolume => exact absurd rfl hkind
      | _ => rfl
    | _ => rfl
  | slept ms cut => rfl
  | polled b => rfl
  | told n => rfl

theorem serverCreations_of_kind (h : ∀ c ∈ calls t, c.kind ≠ .persistentVolume) :
    serverCreations t = [] := by
  refine List.filterMap_eq_nil_iff.2 fun e he => serverCreation?_of_kind fun c hc => ?_
  exact h c (List.mem_filterMap.2 ⟨e, he, hc⟩)

theorem kind_of_perform {settings : Settings} {k : Task} {r : k.Reply}
    (h : (k.perform settings).Path t r) (hk : ∀ c, k ≠ .api c) :
    ∀ c ∈ calls t, c.kind ≠ .persistentVolume := by
  cases k with
  | api c => exact absurd rfl (hk c)
  | provision request => exact Api.kind_of_ofEngine h
  | delete pv => exact Api.kind_of_ofEngine h

theorem path_perform_api {settings : Settings} {c : Api.Call} {r : Api.Reply c}
    (h : ((Task.api c).perform settings).Path t r) : t = [.called c r] := by
  obtain ⟨r', u, rfl, hu⟩ := Program.path_call_iff.1 h
  obtain ⟨rfl, rfl⟩ := Program.path_done_iff.1 hu
  rfl

theorem mem_of_api {settings : Settings} (h : Expands (Task.perform settings) log t) {c : Api.Call}
    {r : Api.Reply c} (hmem : .called (.api c) r ∈ log) : .called c r ∈ t := by
  obtain ⟨x, v, y, rfl, hcall⟩ := h.path_of_mem hmem
  rw [path_perform_api hcall]
  simp

theorem source_of_kind {settings : Settings} {c : Api.Call} {r : Api.Reply c} {pre post : List Api.Event}
    (h : Expands (Task.perform settings) log (pre ++ .called c r :: post))
    (hkind : c.kind = .persistentVolume) :
    ∃ before after, log = before ++ .called (.api c) r :: after ∧
      Expands (Task.perform settings) before pre := by
  obtain ⟨before, k, r', after, pre', u, v, post', rfl, rfl, rfl, hbefore, hcall, -⟩ := h.hasSource
  have hengine (hk : ∀ c, k ≠ .api c) : False :=
    kind_of_perform hcall hk c (by simp) hkind
  cases k with
  | api d =>
    obtain ⟨rfl, hsame⟩ | ⟨x, rfl, hsame⟩ := List.append_eq_cons_iff.1 (path_perform_api hcall)
    · cases hsame
      exact ⟨before, after, rfl, by rwa [List.append_nil]⟩
    · simp at hsame
  | provision request => exact absurd (hengine (by simp)) id
  | delete pv => exact absurd (hengine (by simp)) id

/-- The persistent volumes that are created on the server are those that the controller creates. -/
theorem serverCreations_eq {settings : Settings} (h : Expands (Task.perform settings) log t) :
    serverCreations t = creations log := by
  induction h with
  | nil => rfl
  | @called k r log u v hcall _ ih =>
    have hsplit : serverCreations (u ++ v) = serverCreations u ++ serverCreations v :=
      List.filterMap_append
    rw [hsplit, ih]
    cases k with
    | api c =>
      rw [path_perform_api hcall]
      cases c with
      | create kind ns object => cases kind <;> rfl
      | _ => rfl
    | provision request =>
      rw [serverCreations_of_kind (kind_of_perform hcall (by simp))]
      rfl
    | delete pv =>
      rw [serverCreations_of_kind (kind_of_perform hcall (by simp))]
      rfl
  | slept _ ih => exact ih
  | polled _ ih => exact ih
  | told _ ih => exact ih

/-! ### Passes in turn -/

/-- `Passes o p runs q`: passes one after the other, from what is parked at first to what is parked at last. Each
is given by what the controller does and by the calls of the API server that this comes to. -/
inductive Passes (o : Options) : Parked → List (List Event × List Api.Event) → Parked → Prop
  | nil (p : Parked) : Passes o p [] p
  | cons {p p' q : Parked} {log : List Event} {t : List Api.Event} {r : Except Error Unit}
      {runs : List (List Event × List Api.Event)} : Work.Path (pass o) p log r p' →
      Expands (Task.perform o.settings) log t → Passes o p' runs q → Passes o p ((log, t) :: runs) q

theorem Passes.of_append {runs runs' : List (List Event × List Api.Event)}
    (h : Passes o p (runs ++ runs') q) : ∃ p', Passes o p runs p' ∧ Passes o p' runs' q := by
  induction runs generalizing p with
  | nil => exact ⟨p, .nil p, h⟩
  | cons run runs ih =>
    cases h with
    | cons hpass hexpands hrest =>
      obtain ⟨p', hfirst, hsecond⟩ := ih hrest
      exact ⟨p', .cons hpass hexpands hfirst, hsecond⟩

/-- A pass on the server is a pass of the controller with its tasks done. -/
theorem path_reconcileOnce_iff {r : Except Error Unit} :
    ((reconcileOnce o).run p).Path t (r, q) ↔
      ∃ log, Work.Path (pass o) p log r q ∧ Expands (Task.perform o.settings) log t :=
  Program.path_substitute_iff

/-- What the controller does is passes in turn; in the breaks between them it makes no calls. -/
theorem passes_of_reconcile {limit : Nat} {cancelled : Bool}
    (h : ((reconcile o limit).run p).Path t (cancelled, q)) :
    ∃ runs, Passes o p runs q ∧ calls t = runs.flatMap fun run => calls run.2 := by
  obtain ⟨log, hlog, hexpands⟩ := Program.path_substitute_iff.1 h
  clear h
  change Work.Path (passes o limit) p log cancelled q at hlog
  induction limit generalizing p log t with
  | zero =>
    obtain ⟨rfl, -, rfl⟩ := Work.path_pure_iff.1 hlog
    cases hexpands
    exact ⟨[], .nil _, rfl⟩
  | succ left ih =>
    unfold passes at hlog
    obtain ⟨u, v, r, p', rfl, hpass, h₁⟩ := Work.path_bind_iff.1 hlog
    obtain ⟨x, y, rfl, hx, hy⟩ := hexpands.of_append
    obtain ⟨told, w, _, p'', rfl, hreport, h₂⟩ := Work.path_bind_iff.1 h₁
    obtain ⟨cut, rest, rfl, h₃⟩ := Work.path_wait_bind_iff.1 h₂
    obtain ⟨y₁, y₂, rfl, htold, hrest⟩ := hy.of_append
    have hquiet : calls y₁ = [] ∧ p'' = p' := by
      cases r with
      | ok _ =>
        obtain ⟨rfl, -, rfl⟩ := Work.path_pure_iff.1 hreport
        cases htold
        exact ⟨rfl, rfl⟩
      | error e =>
        obtain ⟨rfl, rfl⟩ := Work.path_log_iff.1 hreport
        cases htold with
        | told hnil =>
          cases hnil
          exact ⟨rfl, rfl⟩
    obtain ⟨hcalls, rfl⟩ := hquiet
    cases hrest with
    | slept hlast =>
      cases cut with
      | true =>
        obtain ⟨rfl, -, rfl⟩ := Work.path_pure_iff.1 h₃
        cases hlast
        refine ⟨[(u, x)], .cons hpass hx (.nil _), ?_⟩
        simp [hcalls]
      | false =>
        obtain ⟨runs, hruns, hlater⟩ := ih rest hlast h₃
        refine ⟨(u, x) :: runs, .cons hpass hx hruns, ?_⟩
        simp [hcalls, hlater]

/-! ### A small server -/

namespace Small

/-- The error that says that an object does not exist. -/
def absence : ApiError := .reported { message := "not found", reason := "NotFound", code := 404 }

/-- A server that always gives the same lists, knows no other objects, and accepts whatever is written. -/
def server (classes : List StorageClass) (claims : List PersistentVolumeClaim)
    (volumes : List PersistentVolume) : World Api.Call Api.Reply Note Unit where
  answer c _ :=
    (match c with
      | .list .storageClass .. => .ok classes
      | .list .persistentVolumeClaim .. => .ok claims
      | .list .persistentVolume .. => .ok volumes
      | .list .. => .ok []
      | .get .. => .error absence
      | .create _ _ object | .replace _ _ object => .ok object
      | .patch kind _ _ change => .ok (kind.ofNormal change)
      | .delete .. => .ok (), ())
  isCancelled _ := false
  pass _ _ := ()
  hear _ _ := ()

end Small

end Controller
end NodeVolumes
