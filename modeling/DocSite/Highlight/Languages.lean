/-
  DocSite.Highlight.Languages

  Names and file extensions of the grammars that come with the themed backend,
  in lower case and in byte order.
-/
namespace DocSite

set_option maxRecDepth 20000 in
/-- Languages that the themed backend lists. -/
def themedLanguages : List String :=
  [".bash_aliases", ".bash_completions", ".bash_functions", ".bash_login", ".bash_logout",
    ".bash_profile", ".bash_variables", ".bashrc", ".coveragerc", ".dockerfile", ".editorconfig",
    ".env", ".env.default", ".env.defaults", ".env.dev", ".env.development",
    ".env.development.local", ".env.dist", ".env.dusk.local", ".env.example", ".env.local",
    ".env.prod", ".env.production", ".env.production.local", ".env.sample", ".env.staging",
    ".env.template", ".env.test", ".env.test.local", ".env.testing", ".envrc", ".exrc",
    ".flaskenv", ".git", ".gitattributes", ".gitconfig", ".gitignore", ".gitlint", ".gitmodules",
    ".gvimrc", ".hgrc", ".htaccess", ".htgroups", ".htpasswd", ".mailmap", ".nvimrc", ".profile",
    ".pylintrc", ".textmate_init", ".vimrc", ".zlogin", ".zlogout", ".zprofile", ".zshenv",
    ".zshrc", "1", "2", "3", "4", "5", "6", "7", "8", "9", "_exrc", "_gvimrc", "_vimrc",
    "actionscript", "ad", "ada", "adb", "adoc", "adp", "ads", "apache conf", "appfile",
    "applescript", "appraisals", "arm assembly", "as", "asa", "asciidoc", "asciidoc (asciidoctor)",
    "ash", "asm", "asp", "attributes", "authorized keys", "authorized_keys", "authorized_keys2",
    "awk", "babel", "bash", "bat", "batch file", "bazel", "berksfile", "bib", "bibtex", "bnsh",
    "bnsi", "bourne again shell (bash)", "brewfile", "bsh", "build", "builder", "bzl", "c", "c#",
    "c++", "cabal", "cakefile", "camlp4", "capfile", "cargo build results", "cargo.lock", "cc",
    "cfc", "cfg", "cfm", "cfml", "cfml script", "cfml script (tags)", "cgi", "cheffile", "cjs",
    "cl", "clisp", "clj", "cljc", "cljs", "clojure", "cls", "cm", "cmake", "cmake c header",
    "cmake c++ header", "cmakecache", "cmakecache.txt", "cmakecommands", "cmakelists.txt", "cmd",
    "cmd-help", "coffee", "coffee.erb", "coffeescript", "comma separated values", "command help",
    "commands-builtin-shell-bash", "commit_editmsg", "comp", "conf", "conf.erb", "config.ru", "cp",
    "cpp", "cpuinfo", "cpy", "cr", "cron.d", "crontab", "crypttab", "crystal", "cs", "cson", "css",
    "css.erb", "css.less", "css.liquid", "csv", "csx", "cts", "cxx", "d", "dart", "ddl",
    "debsources", "deliverfile", "desktop", "di", "diff", "dmd output", "dml", "dockerfile",
    "dockerfile (with bash)", "done.txt", "dot", "dotenv", "dpr", "dtml", "ebuild", "eclass",
    "edn", "el", "elixir", "elm", "elm compile messages", "elm documentation", "email",
    "emakefile", "eml", "env", "env.example", "env.sample", "env.template", "envvars", "epp",
    "erb", "erbsql", "erl", "erlang", "es6", "escript", "ex", "ex.re", "exclude", "exs", "f", "f#",
    "f03", "f08", "f77", "f90", "f95", "fasl", "fastcgi_params", "fastfile", "fcgi", "fish", "for",
    "fortran (fixed form)", "fortran (modern)", "fortran namelist", "fpp", "frag", "fs", "fsh",
    "fshader", "fsi", "fstab", "fsx", "gd", "gdscript (godot engine)", "gemfile", "gemspec",
    "geom", "gfortran build results", "git attributes", "git commit", "git common", "git config",
    "git ignore", "git link", "git log", "git mailmap", "git rebase todo", "git-rebase-todo",
    "gitattributes", "gitconfig", "gitignore", "gitlog", "glsl", "gnu", "gnumakefile", "gnuplot",
    "go", "go.mod", "go.sum", "go.work", "gomod", "gopkg.lock", "gosum", "gp", "gpl", "gpr", "gql",
    "gradle", "graphql", "graphqls", "graphviz (dot)", "groff", "groff/troff", "groovy", "group",
    "gs", "gsh", "gshader", "guardfile", "gv", "gvimrc", "gvy", "gyp", "gypi", "h", "h++",
    "h++.in", "h.in", "haml", "haskell", "hcl", "help", "hgrc", "hh", "hh.in",
    "highlight non-printables", "hosts", "hosts file", "hpp", "hpp.in", "hrl", "hs", "htaccess",
    "htc", "htgroups", "htm", "htm.j2", "html", "html (asp)", "html (eex)", "html (erlang)",
    "html (jinja2)", "html (rails)", "html (tcl)", "html (twig)", "html.eex", "html.erb",
    "html.j2", "html.leex", "html.twig", "htpasswd", "http", "http request and response", "hxx",
    "hxx.in", "idr", "idris", "inc", "inf", "ini", "inl", "ipp", "ipynb", "irbrc", "j2", "java",
    "java properties", "java server page (jsp)", "javadoc", "javascript", "javascript (babel)",
    "javascript (rails)", "jbuilder", "jenkinsfile", "jinja", "jinja2", "jl", "jq", "js", "js.erb",
    "json", "json (terraform)", "jsonnet", "jsp", "jsx", "julia", "known hosts", "known_hosts",
    "known_hosts.old", "kotlin", "kt", "kts", "l", "latex", "latex log", "lean", "lean 4", "less",
    "lhs", "libjsonnet", "libsonnet", "lisp", "literate haskell", "livescript", "ll", "llvm",
    "lng", "log", "ls", "ls.erb", "lsp", "ltx", "lua", "m", "mac", "mailmap", "mak", "make",
    "make output", "makefile", "makefile.am", "makefile.in", "man", "manpage", "markdn",
    "markdown", "matlab", "mboxz", "mbx", "md", "mdown", "mediawikerpanel", "mediawiki", "meminfo",
    "merge_msg", "mesh", "mime.types", "mjs", "mk", "ml", "mli", "mll", "mly", "mm", "msg", "mtab",
    "mts", "mud", "multimarkdown", "namelist", "nant build file", "nasm", "navigational bar sv",
    "navigational bar vhdl", "nginx", "nginx.conf", "nim", "nimble", "nims", "ninja", "nix",
    "nsdinc", "nsh", "nsi", "nsis", "objective-c", "objective-c++", "ocaml", "ocamllex",
    "ocamlmakefile", "ocamlyacc", "odin", "openmp (fortran)", "opml", "org", "orgmode", "p", "pas",
    "pascal", "passwd", "patch", "pb.txt", "pbtxt", "pc", "pdm.lock", "perl", "php", "php source",
    "php3", "php4", "php5", "php7", "phps", "phpt", "phtml", "pip", "pipe separated values",
    "pipfile", "pipfile.lock", "pkgbuild", "pl", "plain text", "plot", "plt", "pm", "pmc", "pod",
    "podfile", "podspec", "poetry.lock", "powershell", "pp", "prawn", "private key", "properties",
    "proto", "proto.text", "protobuf", "protocol buffer", "protocol buffer (text)", "protodevel",
    "prototxt", "ps1", "psd1", "psm1", "pub", "puppet", "purescript", "purs", "pxd", "pxd.in",
    "pxi", "pxi.in", "py", "py3", "pyi", "python", "pyw", "pyx", "pyx.in", "qml", "qmlproject",
    "r", "r console", "rabl", "racket", "rahit", "rails", "rake", "rakefile", "rantfile", "rb",
    "rbx", "rcall", "rchit", "rd", "rd (r documentation)", "re", "reg", "rego",
    "regular expression", "regular expressions (elixir)", "regular expressions (javascript)",
    "regular expressions (php)", "regular expressions (python)", "requirements.in",
    "requirements.txt", "resolv", "resolv.conf", "resource", "rest", "restructuredtext", "rgen",
    "rhtml", "rint", "rjs", "rkt", "rmiss", "rng", "robot", "robot framework", "rprofile", "rpy",
    "rs", "rss", "rst", "ruby", "ruby haml", "ruby on rails", "ruby slim", "ruby.rail", "rust",
    "rxml", "s", "salt state (sls)", "sass", "sbt", "sc", "scala", "scanfile", "scgi_params",
    "scm", "sconscript", "sconstruct", "script editor", "scss", "semi-colon separated values",
    "separated values", "sh", "shell-unix-generic", "show-nonprintable", "shtml", "sig",
    "simplecov", "skim", "slakefile", "sld", "slim", "sls", "sml", "snakefile", "snapfile", "sol",
    "solidity", "sources.list", "sql", "sql (rails)", "sql.erb", "ss", "ssh common", "ssh config",
    "ssh crypto", "ssh_config", "sshd config", "sshd_config", "strace", "sty", "styl", "stylus",
    "sublime-build", "sublime-color-scheme", "sublime-commands", "sublime-completions",
    "sublime-keymap", "sublime-macro", "sublime-menu", "sublime-mousemap", "sublime-project",
    "sublime-settings", "sublime-syntax", "sublime-theme", "sv", "svelte", "svg", "svh", "svlt",
    "swift", "syslog", "systemverilog", "t", "tab", "tab separated values", "tag_editmsg", "task",
    "tcl", "terraform", "tesc", "tese", "testbox", "tex", "textile", "textpb", "textproto", "tf",
    "tfstate", "tfvars", "thor", "thorfile", "tld", "tml", "todo.txt", "toml", "troff", "ts",
    "tsv", "tsx", "twig", "txt", "typ", "typescript", "typescriptreact", "typst",
    "typst build results", "typst code", "url", "uv.lock", "uwsgi_params", "v", "vagrantfile",
    "varlink", "verilog", "vert", "vh", "vhd", "vhdl", "vho", "vht", "vim", "vimhelp", "viml",
    "vimrc", "vpy", "vs", "vsh", "vshader", "vue", "vue component", "vy", "vyper", "wgsl", "wiki",
    "wikipedia", "wscript", "x86_64 assembly", "xaml", "xhtml", "xhtml.j2", "xml", "xml.j2", "xsd",
    "xslt", "yaml", "yasm", "yaws", "yml", "zig", "zon", "zsh"]

end DocSite
