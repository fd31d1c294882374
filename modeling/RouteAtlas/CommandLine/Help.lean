import RouteAtlas.Text.Basic

/-
  How the program is used, in short.
-/

------------------------------------------------------------
-- Help
------------------------------------------------------------

namespace RouteAtlas

namespace Command

/- The commands with their operands and options. -/
def help : List Text :=
  ["Names of files are read from standard input,".toList,
   "one on each line; then one of these is done:".toList,
   "  routes list [WORKSPACE] [--search TEXT]".toList,
   "    [--sort-by route|controller|httpVerb]".toList,
   "    [--format tree|table|json]".toList,
   "  routes detect FILE LINE [--format text|json]".toList,
   "  goto QUERY".toList,
   "  baseurl FILE".toList,
   "  alias list [WORKSPACE]".toList,
   "  alias set VERB ROUTE ALIAS".toList,
   "  alias clear VERB ROUTE".toList,
   "  vars list [WORKSPACE]".toList,
   "  vars set KEY VALUE".toList,
   "  vars remove KEY".toList,
   "  vars init [WORKSPACE]".toList,
   "  ping".toList,
   "Commands without [WORKSPACE] take --workspace.".toList]

end Command

end RouteAtlas
