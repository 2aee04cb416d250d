import NodeVolumes.Proofs.Device.Adoption

/-! # Where a volume on a device is used

A device is used at its mount point when it has one, and else at a raw path: a link by its identity, any other
link, or the path that the kernel gives it. Only devices serve requests for raw volumes, whose claims ask for raw
devices; the path is chosen without a look at this.

* `BlockDeviceSpec.isRawPath_iff`: which path of a device is the raw one.
* `BlockDeviceSpec.volumePath_eq_blockPath_iff`: when the device is used there.
* `raw_volume_path`: a raw volume is used at the raw path of its device unless the device is mounted.
* `raw_volume_is_device`: a raw volume is always on a device. -/

namespace NodeVolumes

open Cluster (Call Event Memory)
open Device (claimName)
open Program.Event (calls)
open Attempt (Path)

/-! ### Paths of a device -/

namespace BlockDeviceSpec

variable {s : BlockDeviceSpec} {p : DeviceLinks → Bool} {link path m : String}

/-- The groups that satisfy `p` have no links. -/
def Linkless (s : BlockDeviceSpec) (p : DeviceLinks → Bool) : Prop :=
  ∀ g ∈ s.devlinks, p g = true → g.links = []

/-- A link comes first in the first of the groups that satisfy `p` and have links. -/
def IsFirstLink (s : BlockDeviceSpec) (p : DeviceLinks → Bool) (link : String) : Prop :=
  ∃ before g after rest, s.devlinks = before ++ g :: after ∧ p g = true ∧ g.links = link :: rest ∧
    ∀ g' ∈ before, p g' = true → g'.links = []

/-- The link that a group gives when only groups that satisfy `p` count. -/
def linkOf (p : DeviceLinks → Bool) (g : DeviceLinks) : Option String := if p g then g.links.head? else none

theorem linkOf_eq_none_iff {g : DeviceLinks} : linkOf p g = none ↔ (p g = true → g.links = []) := by
  unfold linkOf
  split
  · simp [*]
  · simp [*]

theorem linkOf_eq_some_iff {g : DeviceLinks} :
    linkOf p g = some link ↔ p g = true ∧ ∃ rest, g.links = link :: rest := by
  unfold linkOf
  split
  · simp [*, List.head?_eq_some_iff]
  · simp [*]

theorem firstLink?_eq_findSome? : s.firstLink? p = s.devlinks.findSome? (linkOf p) := by
  unfold firstLink?
  induction s.devlinks with
  | nil => rfl
  | cons g rest ih =>
    unfold linkOf at ih ⊢
    by_cases hg : p g = true
    · rw [List.filter_cons_of_pos hg, List.findSome?_cons, List.findSome?_cons, ih, if_pos hg]
    · rw [List.filter_cons_of_neg hg, List.findSome?_cons, ih, if_neg hg]

theorem firstLink?_eq_none_iff : s.firstLink? p = none ↔ s.Linkless p := by
  rw [firstLink?_eq_findSome?, List.findSome?_eq_none_iff]
  exact forall₂_congr fun _ _ => linkOf_eq_none_iff

theorem firstLink?_eq_some_iff : s.firstLink? p = some link ↔ s.IsFirstLink p link := by
  rw [firstLink?_eq_findSome?, List.findSome?_eq_some_iff]
  constructor
  · rintro ⟨before, g, after, hgroups, hlink, hbefore⟩
    obtain ⟨hg, rest, hrest⟩ := linkOf_eq_some_iff.1 hlink
    exact ⟨before, g, after, rest, hgroups, hg, hrest, fun g' hg' => linkOf_eq_none_iff.1 (hbefore g' hg')⟩
  · rintro ⟨before, g, after, rest, hgroups, hg, hrest, hbefore⟩
    exact ⟨before, g, after, hgroups, linkOf_eq_some_iff.2 ⟨hg, rest, hrest⟩,
      fun g' hg' => linkOf_eq_none_iff.2 (hbefore g' hg')⟩

/-- A path at which the raw device is found. -/
inductive IsRawPath (s : BlockDeviceSpec) : String → Prop
  /-- There is a link by the identity of the device. -/
  | byId {link : String} : s.IsFirstLink (·.kind = "by-id") link → IsRawPath s link
  /-- There are other links only. -/
  | byLink {link : String} : s.Linkless (·.kind = "by-id") → s.IsFirstLink (fun _ => true) link → IsRawPath s link
  /-- There are no links. -/
  | kernel : s.Linkless (fun _ => true) → IsRawPath s s.path

/-- The raw path of a device is where it is found, and there is no other one. -/
theorem isRawPath_iff : s.IsRawPath path ↔ path = s.blockPath := by
  have hall {p : DeviceLinks → Bool} (h : s.Linkless fun _ => true) : s.Linkless p := fun g hg _ => h g hg rfl
  constructor
  · intro h
    cases h with
    | byId hlink => simp [blockPath, firstLink?_eq_some_iff.2 hlink]
    | byLink hnone hlink => simp [blockPath, firstLink?_eq_none_iff.2 hnone, firstLink?_eq_some_iff.2 hlink]
    | kernel hnone => simp [blockPath, firstLink?_eq_none_iff.2 hnone, firstLink?_eq_none_iff.2 (hall hnone)]
  · rintro rfl
    cases hid : s.firstLink? (·.kind = "by-id") with
    | some link =>
      have hpath : s.blockPath = link := by simp [blockPath, hid]
      exact hpath ▸ .byId (firstLink?_eq_some_iff.1 hid)
    | none =>
      cases hany : s.firstLink? (fun _ => true) with
      | some link =>
        have hpath : s.blockPath = link := by simp [blockPath, hid, hany]
        exact hpath ▸ .byLink (firstLink?_eq_none_iff.1 hid) (firstLink?_eq_some_iff.1 hany)
      | none =>
        have hpath : s.blockPath = s.path := by simp [blockPath, hid, hany]
        exact hpath ▸ .kernel (firstLink?_eq_none_iff.1 hany)

/-- A device is mounted at a path: it reports a mount point that is not blank. -/
def IsMountedAt (s : BlockDeviceSpec) (m : String) : Prop :=
  m ≠ "" ∧ ∃ written, s.fileSystem.mountPoint = some written ∧ Text.trim written = m

theorem mountPoint?_eq_some_iff : s.mountPoint? = some m ↔ s.IsMountedAt m := by
  unfold mountPoint? IsMountedAt
  simp [Option.filter_eq_some_iff, Option.map_eq_some_iff, and_comm]

theorem mountPoint?_eq_none_iff : s.mountPoint? = none ↔ ∀ m, ¬s.IsMountedAt m := by
  rw [Option.eq_none_iff_forall_ne_some]
  exact forall_congr' fun m => not_congr mountPoint?_eq_some_iff

theorem volumePath_of_isMountedAt (h : s.IsMountedAt m) : s.volumePath = m := by
  simp [volumePath, mountPoint?_eq_some_iff.2 h]

theorem volumePath_of_not_mounted (h : ∀ m, ¬s.IsMountedAt m) : s.volumePath = s.blockPath := by
  simp [volumePath, mountPoint?_eq_none_iff.2 h]

/-- A device is used at its raw path unless it is mounted elsewhere. -/
theorem volumePath_eq_blockPath_iff : s.volumePath = s.blockPath ↔ ∀ m, s.IsMountedAt m → m = s.blockPath := by
  constructor
  · intro h m hm
    exact (volumePath_of_isMountedAt hm).symm.trans h
  · intro h
    by_cases hmounted : ∃ m, s.IsMountedAt m
    · obtain ⟨m, hm⟩ := hmounted
      exact (volumePath_of_isMountedAt hm).trans (h m hm)
    · exact volumePath_of_not_mounted (not_exists.1 hmounted)

end BlockDeviceSpec

/-! ### Raw volumes -/

section
variable {settings : Settings} {request : ProvisionRequest} {plan : Plan} {t : List Event} {made : LocalVolume}

/-- Where a raw volume is used.

The volume and its claim are marked as raw. The device is the one that the last read of the claim has found. The
volume is used at the raw path of the device as long as the device is not mounted; when it is, at the mount point,
which is the raw path only when both are written alike. -/
theorem raw_volume_path (hraw : request.isBlock = true)
    (h : Path (Device.provision settings request plan) t (.ok made)) :
    made.volumeMode = blockMode ∧ (∀ ns claim, .createClaim ns claim ∈ calls t → claim.spec.mode = .block) ∧
      ∃ u current name device, t = u ++ [.called (.getClaim settings.ns (claimName request.volume)) (.ok current),
          .called (.getBlockDevice settings.ns name) (.ok device)] ∧ current.boundDevice? = some name ∧
        (∃ path, made.backing = .device path plan.config.fsType? (claimName request.volume)) ∧
        ((∀ m, ¬device.spec.IsMountedAt m) → device.spec.IsRawPath made.backing.path) ∧
        (∀ m, device.spec.IsMountedAt m → made.backing.path = m) ∧
        (made.backing.path = device.spec.blockPath ↔
          ∀ m, device.spec.IsMountedAt m → m = device.spec.blockPath) := by
  obtain ⟨affinity, ⟨claim, device⟩, -, -, hbind, rfl⟩ := Device.path_provision_ok h
  obtain ⟨rfl, u, current, name, ht, hbound⟩ := Device.bind_eq_ok hbind
  refine ⟨if_pos hraw, fun ns claim hcreated => ?_, u, current, name, device, ht, hbound, ⟨_, rfl⟩,
    fun hnone => ?_, fun m hm => ?_, BlockDeviceSpec.volumePath_eq_blockPath_iff⟩
  · obtain ⟨-, -, hasks⟩ := Device.createsFor_provision plan t _ h _ hcreated ns claim rfl
    exact hasks.mode.trans (if_pos hraw)
  · exact BlockDeviceSpec.isRawPath_iff.2 (BlockDeviceSpec.volumePath_of_not_mounted hnone)
  · exact BlockDeviceSpec.volumePath_of_isMountedAt hm

theorem chooseKind_of_raw {config : VolumeConfig} {kind : StorageKind} (hraw : request.isBlock = true)
    (h : chooseKind request config = .ok kind) : kind = .device := by
  unfold chooseKind at h
  by_cases htype : config.storageType = StorageKind.device.name
  · rw [if_pos htype] at h
    cases h
    rfl
  · rw [if_neg htype, if_pos hraw] at h
    cases h

theorem kind_of_raw {cls : StorageClass} (hraw : request.isBlock = true)
    (h : planFor settings request cls = .ok plan) : plan.kind = .device := by
  obtain ⟨config, -, h₁⟩ := except_bind_eq_ok_iff.1 h
  obtain ⟨kind, hkind, hplan⟩ := except_bind_eq_ok_iff.1 h₁
  cases hplan
  exact chooseKind_of_raw hraw hkind

/-- A volume that is made for a raw request is a raw one on a device. -/
theorem raw_volume_is_device (hraw : request.isBlock = true) (h : (provision settings request).Path t (.ok made)) :
    made.backing.kind = .device ∧ made.volumeMode = blockMode := by
  obtain ⟨u, v, w, plan, -, -, hplan, hmake⟩ := path_provision_ok h
  obtain ⟨-, name, cls, -, -, hplanned⟩ := path_planVolume_ok hplan
  unfold makeVolume at hmake
  rw [kind_of_raw hraw hplanned] at hmake
  obtain ⟨affinity, bound, -, -, -, rfl⟩ := Device.path_provision_ok hmake
  exact ⟨rfl, if_pos hraw⟩

end

namespace Small

/-- A disk with links, which may be mounted. -/
def linkedDisk (mountPoint : Option String) : BlockDevice where
  metadata := { name := some "disk" }
  spec :=
    { path := "/dev/sdb"
      devlinks := [⟨"by-path", ["/dev/disk/by-path/pci-1"]⟩, ⟨"by-id", ["/dev/disk/by-id/ata-1"]⟩]
      fileSystem := { mountPoint } }

/-- The request for a raw volume on the first node. -/
def rawRequest : ProvisionRequest where
  volume := "pvc-1"
  claim := { metadata := { name := some "data" }, spec := some { volumeMode := some blockMode } }
  node := some (node "node-1")

/-- A plan for a device. -/
def devicePlan : Plan where
  config := .ofEntries "pvc-1" (settings.defaultLayer ++ [.ofValue storageTypeKey StorageKind.device.name])
  kind := .device
  storageClass := "local"
  reclaimPolicy := deletePolicy

/-- A cluster in which the claim of the volume gets the disk. -/
def linkedCluster (mountPoint : Option String) : Memory :=
  (({} : Memory).addDevice "openebs" (linkedDisk mountPoint)).bindAfter "bdc-pvc-1" ⟨"disk", 1⟩

/-- What happens when the raw volume is made. -/
def rawEvents (mountPoint : Option String) : List Event :=
  (Memory.world false).trace (Device.provision settings rawRequest devicePlan).run (linkedCluster mountPoint)

/-- The raw volume. -/
def rawVolume (path : String) : LocalVolume :=
  { Device.volumeOn rawRequest devicePlan (KeyMap.singleton hostnameLabel "node-1") ("bdc-pvc-1", linkedDisk none) with
    backing := .device path none "bdc-pvc-1" }

end Small

/-- On a disk with a blank mount point, a raw volume is used at a link by the identity of the disk. -/
theorem raw_volume_path_blank :
    (Small.linkedDisk (some " ")).spec.IsRawPath (Small.rawVolume "/dev/disk/by-id/ata-1").backing.path := by
  have hpath : Path (Device.provision Small.settings Small.rawRequest Small.devicePlan)
      (Small.rawEvents (some " ")) (.ok (Small.rawVolume "/dev/disk/by-id/ata-1")) :=
    World.path_of_run (by decide +kernel)
  obtain ⟨-, -, u, current, name, device, ht, -, -, hunmounted, -⟩ := raw_volume_path rfl hpath
  have hlast : (Small.rawEvents (some " ")).getLast? =
      some (.called (.getBlockDevice "openebs" "disk") (.ok (Small.linkedDisk (some " ")))) := by decide +kernel
  rw [ht, List.getLast?_append_of_ne_nil _ (List.cons_ne_nil _ _)] at hlast
  cases hlast
  exact hunmounted (BlockDeviceSpec.mountPoint?_eq_none_iff.1 (by decide +kernel))

/-- A raw volume is used at the mount point of its disk when the disk is mounted. -/
theorem not_raw_volume_path :
    ¬∀ (settings : Settings) (request : ProvisionRequest) (plan : Plan) (t : List Event) (made : LocalVolume)
        (name : String) (device : BlockDevice), request.isBlock = true →
      Path (Device.provision settings request plan) t (.ok made) →
      .called (.getBlockDevice settings.ns name) (.ok device) ∈ t → made.backing.path = device.spec.blockPath := by
  intro h
  have hread : .called (.getBlockDevice "openebs" "disk") (.ok (Small.linkedDisk (some "/mnt/disk1"))) ∈
      Small.rawEvents (some "/mnt/disk1") := by decide +kernel
  have hmounted : Path (Device.provision Small.settings Small.rawRequest Small.devicePlan)
      (Small.rawEvents (some "/mnt/disk1")) (.ok (Small.rawVolume "/mnt/disk1")) :=
    World.path_of_run (by decide +kernel)
  have hpath := h _ _ _ _ _ _ _ rfl hmounted hread
  exact absurd hpath (by decide +kernel)

end NodeVolumes
