/-!
# Texts

Subtypes of `text`, each with the extensions that stand for it.
-/

set_option autoImplicit false
set_option relaxedAutoImplicit false

namespace WebGateway.Assets.MediaType

def texts : List (String × List String) := [
  ("cache-manifest", ["appcache"]), ("calendar", ["ics", "ifb"]),
  ("coffeescript", ["coffee", "litcoffee"]), ("css", ["css"]), ("csv", ["csv"]), ("dlm", ["dlm"]),
  ("h323", ["323"]), ("html", ["htm", "html", "hxt", "shtml"]), ("iuls", ["uls"]),
  ("jade", ["jade"]), ("javascript", ["js", "jsx"]), ("less", ["less"]),
  ("markdown", ["markdown", "md"]), ("mathml", ["mml"]), ("mdx", ["mdx"]), ("n3", ["n3"]),
  ("plain", ["asm", "bas", "c", "cc", "cd", "cfg", "cmd", "cnf", "conf", "cpp", "cs", "csdproj",
    "csproj", "cxx", "dbproj", "def", "dsw", "h", "hpp", "hxx", "i", "idl", "in", "inc", "ini",
    "inl", "ipproj", "jsxbin", "list", "log", "lst", "mak", "map", "mk", "odh", "odl", "pkgdef",
    "pkgundef", "py", "rc", "rc2", "rct", "reg", "rgs", "s", "scr", "sln", "sol", "sor", "srf",
    "text", "tlh", "tli", "txt", "user", "vb", "vbdproj", "vbproj", "vcs", "vddproj", "vdp",
    "vdproj", "vspscc", "vsscc", "vssscc", "xdr", "xoml"]), ("prs.lines.tag", ["dsc"]),
  ("richtext", ["rtx"]), ("scriptlet", ["sct", "wsc"]), ("sgml", ["sgm", "sgml"]),
  ("shex", ["shex"]), ("slim", ["slim", "slm"]), ("stylus", ["styl", "stylus"]),
  ("tab-separated-values", ["tsv"]), ("turtle", ["ttl"]), ("uri-list", ["uri", "uris", "urls"]),
  ("vbscript", ["vbs"]), ("vcard", ["vcard"]), ("vnd.curl", ["curl"]),
  ("vnd.curl.dcurl", ["dcurl"]), ("vnd.curl.mcurl", ["mcurl"]), ("vnd.curl.scurl", ["scurl"]),
  ("vnd.fly", ["fly"]), ("vnd.fmi.flexstor", ["flx"]), ("vnd.graphviz", ["gv"]),
  ("vnd.in3d.3dml", ["3dml"]), ("vnd.in3d.spot", ["spot"]),
  ("vnd.sun.j2me.app-descriptor", ["jad"]), ("vnd.wap.wml", ["wml"]),
  ("vnd.wap.wmlscript", ["wmls"]), ("vtt", ["vtt"]), ("webviewhtml", ["htt"]),
  ("x-c", ["dic", "hh"]), ("x-component", ["htc"]), ("x-fortran", ["f", "f77", "f90", "for"]),
  ("x-handlebars-template", ["hbs"]), ("x-hdml", ["hdml"]), ("x-html-insertion", ["qht", "qhtm"]),
  ("x-lua", ["lua"]), ("x-markdown", ["mkd"]), ("x-ms-contact", ["contact"]),
  ("x-ms-group", ["group"]), ("x-ms-iqy", ["iqy"]), ("x-ms-rqy", ["rqy"]), ("x-nfo", ["nfo"]),
  ("x-opml", ["opml"]), ("x-pascal", ["p", "pas"]), ("x-processing", ["pde"]), ("x-rust", ["rs"]),
  ("x-sass", ["sass"]), ("x-scss", ["scss"]), ("x-setext", ["etx"]), ("x-sfv", ["sfv"]),
  ("x-suse-ymp", ["ymp"]), ("x-toml", ["toml"]), ("x-uuencode", ["uu"]), ("x-vcard", ["vcf"]),
  ("x-yaml", ["yaml", "yml"]),
  ("xml", ["addin", "disco", "dtd", "dtsconfig", "mno", "ssisdeploymentmanifest", "vml", "vsct",
    "vsixlangpack", "vsixmanifest", "vssettings", "vstemplate", "wsdl", "xml", "xrm-ms", "xsd",
    "xsf", "xsl", "xslt"])]

end WebGateway.Assets.MediaType
