/-
What the command says about itself.
-/

namespace MfmRender.CommandLine

/-- The name of the command. -/
def commandName : String := "render_json.py"

/-- How the command is called. -/
def usageLines : List String :=
  ["usage: render_json.py [-h] [--url HOST] [--animate] [--code-tag-as-div]",
   "                      [--root-tag TAG] [--highlight] [-v]",
   "                      json_file"]

/-- What follows the usage in the help. -/
def helpLines : List String :=
  ["",
   "Render parsed MFM JSON to HTML.",
   "",
   "positional arguments:",
   "  json_file          Path to the JSON node file, or - for stdin",
   "",
   "options:",
   "  -h, --help         show this help message and exit",
   "  --url HOST         Instance host (default: none, links stay relative)",
   "  --animate          Enable animation classes",
   "  --code-tag-as-div  Render code containers as div/span",
   "  --root-tag TAG     Root wrapper tag (default: p)",
   "  --highlight        Highlight block code with Pygments",
   "  -v, --verbose      Debug logging on stderr",
   "",
   "Render a parsed MFM document (JSON parser output) to HTML on stdout.",
   "",
   "Usage:",
   "    .venv/bin/python scripts/render_json.py <nodes.json> [options]",
   "",
   "Options:",
   "    --url HOST           Instance host for mentions, hashtags and emoji images",
   "    --animate            Add animation classes to the first few big/motion nodes",
   "    --code-tag-as-div    Use div/span instead of pre/code",
   "    --root-tag TAG       Wrapper tag name (default: p)",
   "    --highlight          Escape and highlight block code with Pygments",
   "",
   "The input file holds a JSON array of nodes, as produced by mfm-js ``parse()``.",
   "Use ``-`` to read from stdin.",
   "",
   "Example:",
   "    .venv/bin/python scripts/render_json.py note.json --url misskey.io --animate"]

/-- Lines as text, each with its end. -/
def linesText (lines : List String) : String :=
  String.join (lines.map (· ++ "\n"))

def usage : String := linesText usageLines

def help : String := linesText (usageLines ++ helpLines)

end MfmRender.CommandLine
