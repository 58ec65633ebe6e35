/-!
# A file of settings to start from

The text of a file in which every setting has its default, with a comment on each.
-/

namespace SeriesIndex.Config

def templateLines : List String :=
  ["# Tagsieve Configuration",
   "#",
   "# Environment variables override these settings:",
   "# - TAGSIEVE_DATA_DIR",
   "# - TAGSIEVE_BACKEND",
   "# - TAGSIEVE_SEARCH_DEADLINE_MS",
   "# - TAGSIEVE_MAX_SERIES",
   "# - TAGSIEVE_LOG_LEVEL",
   "# - TAGSIEVE_LOG_FORMAT",
   "",
   "[storage]",
   "# Directory holding the index database",
   "data_dir = \"~/.local/share/tagsieve\"",
   "",
   "# Index table backend: sqlite (persistent) or memory",
   "backend = \"sqlite\"",
   "",
   "[index]",
   "# Width of the date buckets postings are grouped by (ms)",
   "bucket_width_ms = 86400000",
   "",
   "# How many recently indexed (tenant, bucket, series) triples to remember",
   "recent_series_capacity = 65536",
   "",
   "[search]",
   "# Per-search deadline (ms)",
   "deadline_ms = 30000",
   "",
   "# Maximum number of series a search returns",
   "max_series = 100000",
   "",
   "# Per-filter scan limit is max_series * scan_limit_multiplier",
   "scan_limit_multiplier = 100",
   "",
   "# Iterations between deadline checks (rounded up to a power of two)",
   "deadline_check_interval = 1024",
   "",
   "[cache]",
   "# Entries kept in the filter cost cache",
   "cost_cache_capacity = 100000",
   "",
   "[logging]",
   "# Log level: trace, debug, info, warn, error",
   "level = \"info\"",
   "",
   "# Log format: pretty (for development) or json (for production)",
   "format = \"pretty\"",
   "",
   "# Optional log file path",
   "# file = \"/var/log/tagsieve/tagsieve.log\"",
   ""]

def template : String := "\n".intercalate templateLines

end SeriesIndex.Config
