import SkillKit.Analysis.Request
import SkillKit.Console.Form

/-!
# Commands of the analyst's console

The words that each request is made with.
-/

namespace SkillKit.Analysis

open Console

/-! ## Kernel -/

def kernelCommands : List (Command Request) := [
  { name := "start", about := ["Start kernel with Snowflake connection."]
    options := [{ name := "warehouse", words := ["--warehouse", "-w"]
                  help := "Warehouse name from config" }]
    build := fun f => .start (text? f "warehouse") },
  { name := "exec"
    about := ["Execute Python code in the kernel. Auto-starts kernel if not running."]
    options := [{ name := "timeout", words := ["--timeout", "-t"], kind := .number
                  default := .float 30.0, help := "Timeout in seconds" }]
    arguments := [{ name := "code" }]
    build := fun f => .execute (text f "code") (value f "timeout") },
  { name := "stop", about := ["Stop the kernel."], build := fun _ => .stop },
  { name := "restart", about := ["Restart the kernel (stop + start)."]
    build := fun _ => .restart },
  { name := "status", about := ["Check kernel status."]
    options := [{ name := "as_json", words := ["--json"], kind := .flag, default := .bool false }]
    build := fun f => .status (value f "as_json").truthy },
  { name := "install"
    about := ["Install additional packages into the kernel environment.",
      "Example: uv run scripts/cli.py install plotly scipy"]
    arguments := [{ name := "packages", many := true }]
    build := fun f => .install (texts f "packages") },
  { name := "ensure", about := ["Ensure kernel is running (start if needed). Used by hooks."]
    build := fun _ => .ensure }]

def warehouseGroup : Console.Group Request :=
  { name := "warehouse", about := ["Manage warehouse connections."]
    commands := [
      { name := "list", about := ["List available warehouse connections."]
        build := fun _ => .warehouses }] }

/-! ## What was learned -/

def conceptGroup : Console.Group Request :=
  { name := "concept", about := ["Manage concept cache (concept -> table mappings)."]
    commands := [
      { name := "lookup", about := ["Look up a concept to find its table."]
        arguments := [{ name := "name" }]
        build := fun f => .lookupConcept (text f "name") },
      { name := "learn", about := ["Store a concept -> table mapping."]
        options := [
          { name := "key_column", words := ["--key-column", "-k"], help := "Primary key column" },
          { name := "date_column", words := ["--date-column", "-d"]
            help := "Date column for filtering" }]
        arguments := [{ name := "name" }, { name := "table" }]
        build := fun f =>
          .learnConcept (text f "name") (text f "table") (value f "key_column")
            (value f "date_column") },
      { name := "list", about := ["List all learned concepts."], build := fun _ => .concepts },
      { name := "import"
        about := ["Import concepts from warehouse.md Quick Reference table.",
          "Parses markdown tables with: | Concept | Table | Key Column | Date Column |"]
        options := [{ name := "path", words := ["--path", "-p"], kind := .existingPath
                      help := "Path to warehouse.md" }]
        build := fun f => .importConcepts (text? f "path") }] }

def patternGroup : Console.Group Request :=
  { name := "pattern", about := ["Manage pattern cache (query strategies)."]
    commands := [
      { name := "lookup", about := ["Find patterns matching a question."]
        arguments := [{ name := "question" }]
        build := fun f => .lookupPattern (text f "question") },
      { name := "learn", about := ["Store a query pattern/strategy."]
        options := [
          { name := "question_types", words := ["--question-types", "-q"], many := true
            required := true, help := "Question types this pattern handles" },
          { name := "strategy", words := ["--strategy", "-s"], many := true, required := true
            help := "Strategy steps" },
          { name := "tables", words := ["--tables", "-t"], many := true, required := true
            help := "Tables used" },
          { name := "gotchas", words := ["--gotchas", "-g"], many := true
            help := "Gotchas/warnings" },
          { name := "example", words := ["--example", "-e"], help := "Example SQL query" }]
        arguments := [{ name := "name" }]
        build := fun f =>
          .learnPattern (text f "name") (value f "question_types") (value f "strategy")
            (value f "tables") (value f "gotchas") (value f "example") },
      { name := "record", about := ["Record pattern outcome (success/failure)."]
        options := [{ name := "success", words := ["--success"], offWords := ["--failure"]
                      kind := .flag, default := .bool true
                      help := "Record success or failure" }]
        arguments := [{ name := "name" }]
        build := fun f => .recordPattern (text f "name") (value f "success").truthy },
      { name := "list", about := ["List all learned patterns."], build := fun _ => .patterns },
      { name := "delete", about := ["Delete a pattern by name."]
        arguments := [{ name := "name" }]
        build := fun f => .deletePattern (text f "name") }] }

def storeGroup : Console.Group Request :=
  { name := "cache", about := ["Manage cache (status, clear)."]
    commands := [
      { name := "status", about := ["Show cache statistics."], build := fun _ => .storeStatus },
      { name := "clear", about := ["Clear cache entries."]
        options := [
          { name := "cache_type", words := ["--type"]
            kind := .choice ["all", "concepts", "patterns"], default := .text "all"
            help := "What to clear" },
          { name := "stale_only", words := ["--stale-only"], kind := .flag
            default := .bool false, help := "Only clear entries older than TTL" },
          { name := "yes", words := ["--yes"], kind := .flag, default := .bool false
            question := some "Are you sure you want to clear the cache?"
            help := "Confirm the action without prompting." }]
        build := fun f => .clearStore (value f "cache_type") (value f "stale_only").truthy }] }

def tableGroup : Console.Group Request :=
  { name := "table", about := ["Manage table schema cache."]
    commands := [
      { name := "lookup", about := ["Look up a cached table schema (DATABASE.SCHEMA.TABLE)."]
        arguments := [{ name := "full_name" }]
        build := fun f => .lookupTable (text f "full_name") },
      { name := "cache"
        about := ["Cache a table's schema.",
          "Example: uv run scripts/cli.py table cache DB.SCHEMA.TABLE -c"
            ++ " '[\x7b\"name\":\"id\",\"type\":\"INT\"\x7d]'"]
        options := [
          { name := "columns", words := ["--columns", "-c"]
            help := "JSON array of column definitions" },
          { name := "row_count", words := ["--row-count", "-r"], kind := .integer
            help := "Row count" },
          { name := "comment", words := ["--comment"], help := "Table description" }]
        arguments := [{ name := "full_name" }]
        build := fun f =>
          .storeTable (text f "full_name") (text? f "columns") (value f "row_count")
            (value f "comment") },
      { name := "list", about := ["List all cached table schemas."], build := fun _ => .tables },
      { name := "delete", about := ["Remove a table from cache."]
        arguments := [{ name := "full_name" }]
        build := fun f => .deleteTable (text f "full_name") }] }

def console : Grammar Request :=
  { name := "main", version := "0.1.0"
    about := ["Jupyter kernel CLI for data analysis with Snowflake."]
    commands := kernelCommands
    groups := [warehouseGroup, conceptGroup, patternGroup, storeGroup, tableGroup] }

def runWith (service : Service) (words : List String) : Act Nat :=
  console.run (Request.perform service) words

def run (words : List String) : Act Nat :=
  runWith .usual words

end SkillKit.Analysis
