import NodeVolumes.Device.Request
import NodeVolumes.Proofs.Cluster.Claims
import NodeVolumes.Proofs.Cluster.Play
import NodeVolumes.Proofs.HostPath.HelperPod

/-! # Volumes in one cluster

The calls for a volume only read and change what is named after it, besides objects that nobody changes.
So the calls for other volumes, wherever they come in between, make no difference to them.

* `Call.IsFor ns volume c`: the call is only about the volume.
* `Memory.Agree volume m m'`: two clusters are the same as far as the volume can tell.
* `Agree.answer`: clusters that agree give the same reply to a call for the volume, and still agree.
* `Happens.agree_of_other`: a call for another volume makes no difference.
* `Made.namedAt`: a claim is kept under its own name, so that a write leads back to where it was read. -/

namespace NodeVolumes.Cluster

open Device (claimName)
open HostPath (HelperOperation eq_of_name_append)
open Program.Event (calls forall_mem_calls_cons)

namespace Call

/-! ### What a call is about -/

/-- Tells the calls that list the objects of a namespace. -/
def isListing : Call → Bool
  | listPods _ | listClaims _ => true
  | _ => false

/-- A call that is only about one volume: about its helper pods, its claim, or what all volumes share. -/
structure IsFor (ns volume : String) (c : Call) : Prop where
  pod : ∀ key, c.podKey? = some key →
    key.ns = ns ∧ ∃ op : HelperOperation, key.name = op.name ++ "-" ++ volume
  claim : ∀ key, c.claimKey? = some key → key = ⟨ns, claimName volume⟩
  listing : c.isListing = false

end Call

namespace Memory

variable {faults : Call → Error → Prop} {m m' m'' n n' : Memory} {t u : List Event}
  {ns volume volume' : String}

/-! ### What a call leaves alone -/

theorem readsOf_getClaim (m : Memory) (ns name : String) :
    (m.getClaim ns name).2.readsOf name = m.readsOf name + 1 := by
  have hreads : ((m.claimReads.insert name (m.readsOf name + 1)).get? name).getD 0 =
      m.readsOf name + 1 := by
    rw [KeyMap.get?_insert_self]
    rfl
  unfold getClaim
  dsimp only
  split <;> exact hreads

theorem readsOf_answer_of_ne {c : Call} {name : String}
    (h : ∀ key, c.claimKey? = some key → key.name ≠ name) (m : Memory) :
    (m.answer c).2.readsOf name = m.readsOf name := by
  cases c with
  | createPod ns pod =>
    unfold answer createPod
    dsimp only
    split <;> rfl
  | deletePod ns name =>
    unfold answer deletePod
    dsimp only
    split
    · rfl
    · split <;> rfl
  | getClaim ns other =>
    have hne : other ≠ name := h ⟨ns, other⟩ rfl
    have hreads : ((m.claimReads.insert other (m.readsOf other + 1)).get? name).getD 0 =
        m.readsOf name := by
      rw [KeyMap.get?_insert_of_ne _ hne]
      rfl
    unfold answer getClaim
    dsimp only
    split <;> exact hreads
  | createClaim ns claim =>
    unfold answer createClaim
    dsimp only
    split <;> rfl
  | replaceClaim ns claim =>
    unfold answer replaceClaim
    dsimp only
    split <;> rfl
  | deleteClaim ns other =>
    unfold answer deleteClaim
    dsimp only
    split <;> rfl
  | _ => rfl

theorem readsOf_answer_of_isOnClaim {c : Call} (h : c.isOnClaim = false) (m : Memory) (name : String) :
    (m.answer c).2.readsOf name = m.readsOf name :=
  readsOf_answer_of_ne (fun _ hkey => absurd hkey (Call.claimKey?_ne_of_isOnClaim h)) m

theorem Plays.readsOf_of_calls (h : Plays faults m t m') (ht : ∀ c ∈ calls t, c.isOnClaim = false)
    (name : String) : m'.readsOf name = m.readsOf name := by
  induction h with
  | done => rfl
  | @next m m₁ m' e t he _ ih =>
    obtain ⟨hfirst, hrest⟩ := forall_mem_calls_cons.1 ht
    rw [ih hrest]
    cases he with
    | @called c r m₁ hanswer =>
      cases hanswer with
      | failed _ => rfl
      | given => exact readsOf_answer_of_isOnClaim (hfirst c rfl) m name
    | silent _ => rfl

/-! ### Clusters that agree -/

/-- The same helper pods are kept under the names of a volume. -/
def SamePods (volume : String) (m m' : Memory) : Prop :=
  ∀ ns (op : HelperOperation), m'.pods.get? ⟨ns, op.name ++ "-" ++ volume⟩ =
    m.pods.get? ⟨ns, op.name ++ "-" ++ volume⟩

/-- The same claims are kept under the name of a volume, and it has been read as often. -/
structure SameClaims (volume : String) (m m' : Memory) : Prop where
  claims : ∀ ns, m'.claims.get? ⟨ns, claimName volume⟩ = m.claims.get? ⟨ns, claimName volume⟩
  reads : m'.readsOf (claimName volume) = m.readsOf (claimName volume)

/-- Two clusters are the same as far as a volume can tell. -/
structure Agree (volume : String) (m m' : Memory) : Prop extends
  SameSetup m m', SameClaims volume m m' where
  pods : SamePods volume m m'

namespace Agree

theorem refl (volume : String) (m : Memory) : Agree volume m m :=
  { SameSetup.refl m with claims := fun _ => rfl, reads := rfl, pods := fun _ _ => rfl }

theorem symm (h : Agree volume m m') : Agree volume m' m :=
  { h.toSameSetup.symm with
    claims := fun ns => (h.claims ns).symm
    reads := h.reads.symm
    pods := fun ns op => (h.pods ns op).symm }

theorem trans (h : Agree volume m m') (h' : Agree volume m' m'') : Agree volume m m'' :=
  { h.toSameSetup.trans h'.toSameSetup with
    claims := fun ns => (h'.claims ns).trans (h.claims ns)
    reads := h'.reads.trans h.reads
    pods := fun ns op => (h'.pods ns op).trans (h.pods ns op) }

/-! ### Calls for the volume -/

/-- After a call, only what the call is on has to be compared. -/
theorem after (h : Agree volume m m') (c : Call)
    (hpods : c.isOnPod = true → SamePods volume (m.answer c).2 (m'.answer c).2)
    (hclaims : c.isOnClaim = true → SameClaims volume (m.answer c).2 (m'.answer c).2) :
    Agree volume (m.answer c).2 (m'.answer c).2 where
  toSameSetup := (sameSetup_answer c m).symm.trans (h.toSameSetup.trans (sameSetup_answer c m'))
  toSameClaims := by
    cases hclaim : c.isOnClaim with
    | true => exact hclaims hclaim
    | false =>
      constructor
      · rw [(frame_answer c m).claims hclaim, (frame_answer c m').claims hclaim]
        exact h.claims
      · rw [readsOf_answer_of_isOnClaim hclaim, readsOf_answer_of_isOnClaim hclaim]
        exact h.reads
  pods := by
    cases hpod : c.isOnPod with
    | true => exact hpods hpod
    | false =>
      unfold SamePods
      rw [(frame_answer c m).pods hpod, (frame_answer c m').pods hpod]
      exact h.pods

theorem createPod (h : Agree volume m m') {pod : Pod} {op : HelperOperation}
    (hname : pod.metadata.nameD = op.name ++ "-" ++ volume) (ns : String) :
    (m'.createPod ns pod).1 = (m.createPod ns pod).1 ∧
      SamePods volume (m.createPod ns pod).2 (m'.createPod ns pod).2 := by
  have hpod := h.pods ns op
  have hstarted : m'.started ns pod = m.started ns pod := by
    unfold started outcomeOf
    rw [h.outcomes, h.defaultOutcome]
  rw [← hname] at hpod
  unfold Memory.createPod KeyMap.contains
  simp only [hpod, hstarted]
  split
  · exact ⟨rfl, h.pods⟩
  · refine ⟨rfl, fun ns' op' => ?_⟩
    rw [KeyMap.get?_insert, KeyMap.get?_insert, h.pods]

theorem deletePod (h : Agree volume m m') {name : String} {op : HelperOperation}
    (hname : name = op.name ++ "-" ++ volume) (ns : String) :
    (m'.deletePod ns name).1 = (m.deletePod ns name).1 ∧
      SamePods volume (m.deletePod ns name).2 (m'.deletePod ns name).2 := by
  have hpod := h.pods ns op
  rw [← hname] at hpod
  unfold Memory.deletePod KeyMap.contains
  simp only [hpod, h.failPodDeletes]
  split
  · exact ⟨rfl, h.pods⟩
  · split
    · refine ⟨rfl, fun ns' op' => ?_⟩
      rw [KeyMap.get?_erase, KeyMap.get?_erase, h.pods]
    · exact ⟨rfl, h.pods⟩

theorem getClaim (h : Agree volume m m') (ns : String) :
    (m'.getClaim ns (claimName volume)).1 = (m.getClaim ns (claimName volume)).1 ∧
      SameClaims volume (m.getClaim ns (claimName volume)).2 (m'.getClaim ns (claimName volume)).2 := by
  have hreads : (m'.getClaim ns (claimName volume)).2.readsOf (claimName volume) =
      (m.getClaim ns (claimName volume)).2.readsOf (claimName volume) := by
    rw [readsOf_getClaim, readsOf_getClaim, h.reads]
  unfold Memory.getClaim at hreads ⊢
  simp only [h.claims, h.bindings, h.reads] at hreads ⊢
  split
  case h_1 hnone =>
    simp only [hnone] at hreads
    exact ⟨rfl, h.claims, hreads⟩
  case h_2 claim hclaim =>
    simp only [hclaim] at hreads
    refine ⟨rfl, fun ns' => ?_, hreads⟩
    rw [KeyMap.get?_insert, KeyMap.get?_insert, h.claims]

theorem createClaim (h : Agree volume m m') {claim : BlockDeviceClaim}
    (hname : claim.metadata.nameD = claimName volume) (ns : String) :
    (m'.createClaim ns claim).1 = (m.createClaim ns claim).1 ∧
      SameClaims volume (m.createClaim ns claim).2 (m'.createClaim ns claim).2 := by
  unfold Memory.createClaim KeyMap.contains
  simp only [hname, h.claims]
  split
  · exact ⟨rfl, h.toSameClaims⟩
  · refine ⟨rfl, fun ns' => ?_, h.reads⟩
    rw [KeyMap.get?_insert, KeyMap.get?_insert, h.claims]

theorem replaceClaim (h : Agree volume m m') {claim : BlockDeviceClaim}
    (hname : claim.metadata.nameD = claimName volume) (ns : String) :
    (m'.replaceClaim ns claim).1 = (m.replaceClaim ns claim).1 ∧
      SameClaims volume (m.replaceClaim ns claim).2 (m'.replaceClaim ns claim).2 := by
  unfold Memory.replaceClaim KeyMap.contains
  simp only [hname, h.claims]
  split
  · refine ⟨rfl, fun ns' => ?_, h.reads⟩
    rw [KeyMap.get?_insert, KeyMap.get?_insert, h.claims]
  · exact ⟨rfl, h.toSameClaims⟩

theorem deleteClaim (h : Agree volume m m') (ns : String) :
    (m'.deleteClaim ns (claimName volume)).1 = (m.deleteClaim ns (claimName volume)).1 ∧
      SameClaims volume (m.deleteClaim ns (claimName volume)).2
        (m'.deleteClaim ns (claimName volume)).2 := by
  unfold Memory.deleteClaim KeyMap.contains
  simp only [h.claims]
  split
  · refine ⟨rfl, fun ns' => ?_, h.reads⟩
    rw [KeyMap.get?_erase, KeyMap.get?_erase, h.claims]
  · exact ⟨rfl, h.toSameClaims⟩

/-- Clusters that agree give the same reply to a call for the volume, and still agree after it. -/
theorem answer (h : Agree volume m m') {c : Call} (hc : c.IsFor ns volume) :
    (m'.answer c).1 = (m.answer c).1 ∧ Agree volume (m.answer c).2 (m'.answer c).2 := by
  cases c with
  | getStorageClass name =>
    refine ⟨?_, h⟩
    show found .storageClass name (m'.storageClasses.get? name) = _
    rw [h.storageClasses]
    rfl
  | listNodes labels =>
    refine ⟨?_, h⟩
    show Except.ok (m'.nodes.values.filter (·.carries labels)) = _
    rw [h.nodes]
    rfl
  | createPod ns pod =>
    obtain ⟨-, op, hname⟩ := hc.pod _ rfl
    obtain ⟨hreply, hpods⟩ := h.createPod hname ns
    exact ⟨hreply, h.after _ (fun _ => hpods) nofun⟩
  | getPod ns name =>
    obtain ⟨-, op, rfl⟩ := hc.pod _ rfl
    exact ⟨congrArg (found .pod _) (h.pods ns op), h⟩
  | deletePod ns name =>
    obtain ⟨-, op, hname⟩ := hc.pod _ rfl
    obtain ⟨hreply, hpods⟩ := h.deletePod hname ns
    exact ⟨hreply, h.after _ (fun _ => hpods) nofun⟩
  | listPods ns => cases hc.listing
  | getClaim ns name =>
    cases hc.claim _ rfl
    obtain ⟨hreply, hclaims⟩ := h.getClaim ns
    exact ⟨hreply, h.after _ nofun fun _ => hclaims⟩
  | createClaim ns claim =>
    obtain ⟨hreply, hclaims⟩ := h.createClaim (congrArg ObjectKey.name (hc.claim _ rfl)) ns
    exact ⟨hreply, h.after _ nofun fun _ => hclaims⟩
  | replaceClaim ns claim =>
    obtain ⟨hreply, hclaims⟩ := h.replaceClaim (congrArg ObjectKey.name (hc.claim _ rfl)) ns
    exact ⟨hreply, h.after _ nofun fun _ => hclaims⟩
  | deleteClaim ns name =>
    cases hc.claim _ rfl
    obtain ⟨hreply, hclaims⟩ := h.deleteClaim ns
    exact ⟨hreply, h.after _ nofun fun _ => hclaims⟩
  | listClaims ns => cases hc.listing
  | getBlockDevice ns name =>
    refine ⟨?_, h⟩
    show found .blockDevice name (m'.devices.get? ⟨ns, name⟩) = _
    rw [h.devices]
    rfl

end Agree

theorem Happens.of_agree {e : Event} (h : Happens faults m e n)
    (he : ∀ c, e.call? = some c → c.IsFor ns volume) (hagree : Agree volume m m') :
    ∃ n', Happens faults m' e n' ∧ Agree volume n n' := by
  cases h with
  | @called c r n hanswer =>
    cases hanswer with
    | given =>
      obtain ⟨hreply, hafter⟩ := hagree.answer (he c rfl)
      refine ⟨(m'.answer c).2, ?_, hafter⟩
      rw [← hreply]
      exact .called .given
    | failed hfault => exact ⟨m', .called (.failed hfault), hagree⟩
  | silent hsilent => exact ⟨m', .silent hsilent, hagree⟩

theorem Plays.of_agree (h : Plays faults m t n) (ht : ∀ c ∈ calls t, c.IsFor ns volume)
    (hagree : Agree volume m m') : ∃ n', Plays faults m' t n' ∧ Agree volume n n' := by
  induction h generalizing m' with
  | done => exact ⟨m', .done, hagree⟩
  | @next m m₁ n e t he _ ih =>
    obtain ⟨hfirst, hrest⟩ := forall_mem_calls_cons.1 ht
    obtain ⟨m₁', he', hagree'⟩ := he.of_agree hfirst hagree
    obtain ⟨n', ht', hagree''⟩ := ih hrest hagree'
    exact ⟨n', .next he' ht', hagree''⟩

/-! ### Calls for other volumes -/

theorem claimName_injective {volume volume' : String} (h : claimName volume = claimName volume') :
    volume = volume' := by
  have hlist := congrArg String.toList h
  simpa [claimName, String.toList_inj] using hlist

/-- An event with a call for another volume makes no difference to a volume. -/
theorem Happens.agree_of_other {e : Event} (h : Happens faults m e m')
    (he : ∀ c, e.call? = some c → c.IsFor ns volume') (hne : volume ≠ volume') :
    Agree volume m m' := by
  cases h with
  | @called c r m' hanswer =>
    have hc := he c rfl
    have hrun : Run faults m [.called c r] m' := .called (.refl m) hanswer (.done (.refl m'))
    have hpods : SamePods volume m m' := by
      intro ns' op
      apply hrun.get?_pods_of_ne
      intro d hd hkey
      rw [List.mem_singleton.1 hd] at hkey
      obtain ⟨-, op', hname⟩ := hc.pod _ hkey
      exact hne (eq_of_name_append hname).2
    have hclaims : ∀ ns', m'.claims.get? ⟨ns', claimName volume⟩ =
        m.claims.get? ⟨ns', claimName volume⟩ := by
      intro ns'
      apply hrun.get?_claims_of_ne
      intro d hd hkey
      rw [List.mem_singleton.1 hd] at hkey
      exact hne (claimName_injective (congrArg ObjectKey.name (hc.claim _ hkey)))
    have hreads : m'.readsOf (claimName volume) = m.readsOf (claimName volume) := by
      cases hanswer with
      | failed _ => rfl
      | given =>
        apply readsOf_answer_of_ne
        intro key hkey hname
        rw [hc.claim key hkey] at hname
        exact hne (claimName_injective hname.symm)
    exact { (Happens.called hanswer).sameSetup with claims := hclaims, reads := hreads, pods := hpods }
  | silent _ => exact .refl volume m

/-! ### Names of claims -/

/-- The claim under a key has the name of the key. -/
def NamedAt (m : Memory) (key : ObjectKey) : Prop :=
  ∀ claim, m.claims.get? key = some claim → claim.metadata.nameD = key.name

/-- What is read under a key has the name of the key. -/
def NamesReads (key : ObjectKey) (t : List Event) : Prop :=
  ∀ claim, .called (.getClaim key.ns key.name) (.ok claim) ∈ t → claim.metadata.nameD = key.name

variable {key : ObjectKey}

theorem Answers.namedAt {c : Call} {r : Reply c} (h : m.Answers faults c r m') (hm : m.NamedAt key) :
    m'.NamedAt key := (claimStep_of_answers key h).nameD_eq hm

theorem Answers.nameD_of_getClaim {claim : BlockDeviceClaim}
    (h : m.Answers faults (.getClaim key.ns key.name) (.ok claim) m') (hm : m.NamedAt key) :
    claim.metadata.nameD = key.name := by
  obtain ⟨-, -, -, hclaim⟩ := h.claims_of_getClaim
  exact h.namedAt hm claim hclaim

theorem Happens.namedAt {e : Event} (h : Happens faults m e m') (hm : m.NamedAt key) :
    NamesReads key [e] ∧ m'.NamedAt key := by
  cases h with
  | called hanswer =>
    refine ⟨fun claim hclaim => ?_, hanswer.namedAt hm⟩
    cases List.mem_singleton.1 hclaim
    exact hanswer.nameD_of_getClaim hm
  | silent he =>
    refine ⟨fun claim hclaim => ?_, hm⟩
    rw [← List.mem_singleton.1 hclaim] at he
    cases he

theorem NamesReads.cons {e : Event} (h : NamesReads key [e]) (h' : NamesReads key t) :
    NamesReads key (e :: t) := by
  intro claim hclaim
  rcases List.mem_cons.1 hclaim with he | ht
  · exact h claim (List.mem_singleton.2 he)
  · exact h' claim ht

theorem Run.namesReads (h : Run faults m t m') (hm : m.NamedAt key) : NamesReads key t := by
  induction h with
  | done _ => exact fun claim hclaim => by cases hclaim
  | @called m m₁ _ _ _ _ _ hdrift hanswer _ ih =>
    have hm' : m₁.NamedAt key := by
      intro claim hclaim
      rw [hdrift.claims] at hclaim
      exact hm claim hclaim
    obtain ⟨hfirst, hafter⟩ := (Happens.called hanswer).namedAt hm'
    exact hfirst.cons (ih hafter)
  | @silent m m' e t he _ ih =>
    have hevent : Happens faults m e m := .silent he
    exact (hevent.namedAt hm).1.cons (ih hm)

/-- A cluster that has been made from an empty one by adding claims and answering calls. Everything but
claims may have been changed in any way. -/
inductive Made : Memory → Prop
  | empty : Made {}
  | addClaim {m : Memory} (ns : String) (claim : BlockDeviceClaim) : Made m → Made (m.addClaim ns claim)
  | answered {m : Memory} (c : Call) : Made m → Made (m.answer c).2
  | changed {m m' : Memory} : Made m → m'.claims = m.claims → Made m'

/-- Every claim has the name of its key. -/
theorem Made.namedAt (h : Made m) (key : ObjectKey) : m.NamedAt key := by
  induction h with
  | empty => exact fun claim hclaim => by cases hclaim
  | addClaim ns made _ ih =>
    intro claim hclaim
    unfold Memory.addClaim at hclaim
    dsimp only at hclaim
    rw [KeyMap.get?_insert] at hclaim
    split at hclaim
    case isTrue hkey =>
      cases hclaim
      exact congrArg ObjectKey.name hkey
    case isFalse => exact ih claim hclaim
  | @answered m c _ ih =>
    have hgiven : m.Answers NoFaults c (m.answer c).1 (m.answer c).2 := .given
    exact hgiven.namedAt ih
  | changed _ heq ih =>
    intro claim hclaim
    rw [heq] at hclaim
    exact ih claim hclaim

end Memory
end NodeVolumes.Cluster
