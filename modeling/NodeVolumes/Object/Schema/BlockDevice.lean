import NodeVolumes.Object.Schema

/-! # Schemas of block devices and their claims

What the device manager of a node reports of a device, and what a claim asks for. Every part of them has
a default, and each may be written as an array of its members' values. -/

namespace NodeVolumes.Schema

/-! ### Devices -/

/-- The node that a device is attached to. -/
def deviceNode : Schema := record (withDefault text "nodeName" ++ withDefault text "hostName")

/-- Links of one kind to a device. -/
def deviceLinks : Schema := record (withDefault text "kind" ++ withDefault texts "links")

/-- What a device is. -/
def blockDeviceSpec : Schema :=
  record (withDefault text "path" ++
    withDefault (record (withDefault natural64 "storage")) "capacity" ++
    withDefault (list deviceLinks) "devlinks" ++
    withDefault (record (may text ["fsType", "mountPoint"])) "filesystem" ++
    withDefault deviceNode "nodeAttributes")

/-- How a device is doing. -/
def blockDeviceStatus : Schema :=
  record (withDefault text "claimState" ++ withDefault text "state")

/-! ### Claims -/

/-- What a claim for a device asks for. -/
def blockDeviceClaimSpec : Schema :=
  record (withDefault (record (withDefault textMap "requests")) "resources" ++
    withDefault text "blockDeviceName" ++
    withDefault deviceNode "blockDeviceNodeAttributes" ++
    withDefault (record (withDefault (choice ["FileSystem", "Block"]) "blockVolumeMode"))
      "deviceClaimDetails" ++
    may (record (withDefault textMap "matchLabels")) ["selector"])

/-- Whether a claim has its device. -/
def blockDeviceClaimStatus : Schema := record (withDefault (choice ["Pending", "Bound"]) "phase")

end NodeVolumes.Schema
