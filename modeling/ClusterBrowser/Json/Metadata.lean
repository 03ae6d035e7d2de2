import ClusterBrowser.Json.Decoding
import ClusterBrowser.Metadata

/-!
# The JSON form of what a cluster reports

For each kind of report: how it is written, with all its fields, and how it is taken.  Fields with a default may be
missing, and fields that are not known are passed over.

* `NodeAddress`, `Replica`, `Block`, `BlockReport`, `FileInfo`: `toJson` and `ofJson`.
-/

namespace ClusterBrowser

open Json

def NodeAddress.toJson (a : NodeAddress) : Json :=
  .obj [("host", .str a.host), ("rpc_port", .int a.rpcPort), ("data_port", .int a.dataPort),
    ("web_port", .int a.webPort)]

def NodeAddress.ofJson : Json → Checked NodeAddress := asObject fun fs =>
  NodeAddress.mk <$> required fs "host" asText <*> optional fs "rpc_port" asInt 0 <*>
    optional fs "data_port" asInt 0 <*> optional fs "web_port" asInt 0

def Replica.toJson (r : Replica) : Json :=
  .obj [("worker_id", .int r.workerId), ("worker_address", r.address.toJson), ("tier_alias", .str r.tier)]

def Replica.ofJson : Json → Checked Replica := asObject fun fs =>
  Replica.mk <$> optional fs "worker_id" asInt 0 <*> required fs "worker_address" NodeAddress.ofJson <*>
    optional fs "tier_alias" asText "MEM"

def Block.toJson (b : Block) : Json :=
  .obj [("block_id", .int b.id), ("length", .int b.length), ("locations", .arr (b.replicas.map Replica.toJson))]

def Block.ofJson : Json → Checked Block := asObject fun fs =>
  Block.mk <$> required fs "block_id" asInt <*> optional fs "length" asInt 0 <*>
    optional fs "locations" (asList Replica.ofJson) []

def BlockReport.toJson (r : BlockReport) : Json :=
  .obj [("block_info", r.block.toJson), ("offset", .int r.offset),
    ("ufs_locations", .arr (r.backing.map NodeAddress.toJson))]

def BlockReport.ofJson : Json → Checked BlockReport := asObject fun fs =>
  BlockReport.mk <$> required fs "block_info" Block.ofJson <*> optional fs "offset" asInt 0 <*>
    optional fs "ufs_locations" (asList NodeAddress.ofJson) []

def FileInfo.toJson (i : FileInfo) : Json :=
  .obj [("file_id", .int i.id), ("name", .str i.name), ("path", .str i.path), ("length", .int i.length),
    ("block_size_bytes", .int i.blockSize), ("creation_time_ms", .int i.createdMs),
    ("last_modification_time_ms", .int i.modifiedMs), ("completed", .bool i.completed), ("folder", .bool i.folder),
    ("pinned", .bool i.pinned), ("in_memory_percentage", .int i.inMemoryPercent), ("owner", .str i.owner),
    ("group", .str i.group), ("permission", .int i.permission), ("block_ids", .arr (i.blockIds.map .int))]

def FileInfo.ofJson : Json → Checked FileInfo := asObject fun fs =>
  FileInfo.mk <$> required fs "file_id" asInt <*> required fs "name" asText <*> required fs "path" asText <*>
    optional fs "length" asInt 0 <*> optional fs "block_size_bytes" asInt 0 <*>
    optional fs "creation_time_ms" asInt 0 <*> optional fs "last_modification_time_ms" asInt 0 <*>
    optional fs "completed" asBool true <*> optional fs "folder" asBool false <*> optional fs "pinned" asBool false <*>
    optional fs "in_memory_percentage" asInt 0 <*> optional fs "owner" asText "" <*> optional fs "group" asText "" <*>
    optional fs "permission" asInt 0o644 <*> optional fs "block_ids" (asList asInt) []

end ClusterBrowser
