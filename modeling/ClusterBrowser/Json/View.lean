import ClusterBrowser.Browse.View
import ClusterBrowser.Json.Basic

/-!
# The JSON form of views

* `Entry.toJson`, `BlockView.toJson`, `PreviewResult.toJson`, `View.toJson`: all fields, missing values as `null`.
-/

namespace ClusterBrowser

/-- A row of a listing. Times are in universal time. -/
def Entry.toJson (e : Entry) : Json :=
  .obj [("id", .int e.id), ("name", .str e.name), ("absolute_path", .str e.path), ("is_directory", .bool e.isDirectory),
    ("length", .int e.length), ("size", .str e.size), ("block_size_bytes", .int e.blockSize),
    ("is_completed", .bool e.isCompleted), ("is_pinned", .bool e.isPinned),
    ("in_memory_percent", .int e.inMemoryPercent), ("creation_time", .str (e.created.text "Z")),
    ("modification_time", .str (e.modified.text "Z")), ("owner", .str e.owner), ("group", .str e.group),
    ("permission", .str e.permission), ("file_locations", .ofOption (e.locations.map Json.strings))]

def BlockView.toJson (b : BlockView) : Json :=
  .obj [("id", .int b.id), ("block_length", .int b.length), ("offset", .int b.offset),
    ("tier_aliases", .strings b.tiers), ("locations", .strings b.hosts), ("is_in_highest_tier", .bool b.inHighestTier)]

def PreviewResult.toJson (p : PreviewResult) : Json :=
  .obj [("offset", .int p.offset), ("byte_count", .int p.byteCount), ("text", .str p.text),
    ("blocks", .arr (p.blocks.map BlockView.toJson)), ("highest_tier_alias", .str p.highestTier)]

def ViewKind.word : ViewKind → String
  | .listing => "browse"
  | .file => "file"

def View.toJson (v : View) : Json :=
  .obj [("view", .str v.kind.word), ("current_path", .str v.currentPath),
    ("path_infos", .arr (v.ancestors.map Entry.toJson)), ("current_directory", .ofOption (v.current.map Entry.toJson)),
    ("file_infos", .ofOption (v.rows.map fun rows => .arr (rows.map Entry.toJson))), ("n_total_file", .int v.totalRows),
    ("pagination_deferred", .bool v.paginationDeferred), ("file_data", .ofOption (v.fileText.map .str)),
    ("file_data_length", .int v.fileBytes), ("file_blocks", .arr (v.fileBlocks.map BlockView.toJson)),
    ("viewing_offset", .int v.offset), ("block_size_bytes", .ofOption (v.blockSize.map .int)),
    ("worker_web_port", .ofOption (v.workerWebPort.map .int)),
    ("highest_tier_alias", .ofOption (v.highestTier.map .str)), ("master_node_address", .str v.masterAddress),
    ("debug", .bool v.debug), ("invalid_path_error", .str v.pathError), ("fatal_error", .str v.fatalError)]

end ClusterBrowser
