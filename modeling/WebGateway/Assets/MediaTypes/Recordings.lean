/-!
# Pictures, sounds and films

Subtypes of the families of what is seen and heard, each with the extensions that stand for it.
-/

set_option autoImplicit false
set_option relaxedAutoImplicit false

namespace WebGateway.Assets.MediaType

def images : List (String × List String) := [
  ("aces", ["exr"]), ("apng", ["apng"]), ("avif", ["avif"]), ("bmp", ["bmp", "dib"]),
  ("cgm", ["cgm"]), ("cis-cod", ["cod"]), ("dicom-rle", ["drle"]), ("fits", ["fits"]),
  ("g3fax", ["g3"]), ("gif", ["gif"]), ("heic", ["heic"]), ("heic-sequence", ["heics"]),
  ("heif", ["heif"]), ("heif-sequence", ["heifs"]), ("ief", ["ief"]), ("jls", ["jls"]),
  ("jp2", ["jp2", "jpg2"]), ("jpeg", ["jpe", "jpeg", "jpg"]), ("jpm", ["jpm"]),
  ("jpx", ["jpf", "jpx"]), ("jxr", ["jxr"]), ("ktx", ["ktx"]), ("pict", ["pct", "pic", "pict"]),
  ("pjpeg", ["jfif"]), ("png", ["png", "pnz"]), ("prs.btif", ["btif"]), ("prs.pti", ["pti"]),
  ("sgi", ["sgi"]), ("svg+xml", ["svg", "svgz"]), ("t38", ["t38"]), ("tiff", ["tif", "tiff"]),
  ("tiff-fx", ["tfx"]), ("vnd.airzip.accelerator.azv", ["azv"]),
  ("vnd.dece.graphic", ["uvg", "uvi", "uvvg", "uvvi"]), ("vnd.djvu", ["djv", "djvu"]),
  ("vnd.dvb.subtitle", ["sub"]), ("vnd.dwg", ["dwg"]), ("vnd.dxf", ["dxf"]),
  ("vnd.fastbidsheet", ["fbs"]), ("vnd.fpx", ["fpx"]), ("vnd.fst", ["fst"]),
  ("vnd.fujixerox.edmics-mmr", ["mmr"]), ("vnd.fujixerox.edmics-rlc", ["rlc"]),
  ("vnd.ms-modi", ["mdi"]), ("vnd.ms-photo", ["wdp"]), ("vnd.net-fpx", ["npx"]),
  ("vnd.rn-realflash", ["rf"]), ("vnd.tencent.tap", ["tap"]), ("vnd.valve.source.texture", ["vtf"]),
  ("vnd.wap.wbmp", ["wbmp"]), ("vnd.xiff", ["xif"]), ("webp", ["webp"]), ("x-3ds", ["3ds"]),
  ("x-cmu-raster", ["ras"]), ("x-cmx", ["cmx"]), ("x-freehand", ["fh", "fh4", "fh5", "fh7", "fhc"]),
  ("x-icon", ["ico"]), ("x-jg", ["art"]), ("x-jng", ["jng"]),
  ("x-macpaint", ["mac", "pnt", "pntg"]), ("x-mrsid-image", ["sid"]),
  ("x-portable-anymap", ["pnm"]), ("x-portable-bitmap", ["pbm"]), ("x-portable-graymap", ["pgm"]),
  ("x-portable-pixmap", ["ppm"]), ("x-quicktime", ["qti", "qtif"]), ("x-rgb", ["rgb"]),
  ("x-tga", ["tga"]), ("x-xbitmap", ["xbm"]), ("x-xpixmap", ["xpm"]), ("x-xwindowdump", ["xwd"])]

def sounds : List (String × List String) := [
  ("aac", ["aac", "adts"]), ("ac3", ["ac3"]), ("aiff", ["aif", "aifc", "aiff", "cdda"]),
  ("annodex", ["axa"]), ("audible", ["aa"]), ("basic", ["au", "snd"]), ("flac", ["flac"]),
  ("m4a", ["m4a"]), ("m4b", ["m4b"]), ("m4p", ["m4p"]), ("mid", ["mid", "midi", "rmi"]),
  ("midi", ["kar"]), ("mp4", ["mp4a"]), ("mpeg", ["m2a", "m3a", "mp2a", "mp3", "mpga"]),
  ("ogg", ["oga", "ogg", "opus", "spx"]), ("s3m", ["s3m"]), ("scpls", ["pls"]), ("silk", ["sil"]),
  ("vnd.audible.aax", ["aax"]), ("vnd.dece.audio", ["uva", "uvva"]), ("vnd.digital-winds", ["eol"]),
  ("vnd.dlna.adts", ["adt"]), ("vnd.dra", ["dra"]), ("vnd.dts", ["dts"]), ("vnd.dts.hd", ["dtshd"]),
  ("vnd.lucent.voice", ["lvp"]), ("vnd.ms-playready.media.pya", ["pya"]),
  ("vnd.nuera.ecelp4800", ["ecelp4800"]), ("vnd.nuera.ecelp7470", ["ecelp7470"]),
  ("vnd.nuera.ecelp9600", ["ecelp9600"]), ("vnd.rip", ["rip"]), ("wav", ["wav", "wave"]),
  ("webm", ["weba"]), ("x-caf", ["caf"]), ("x-gsm", ["gsm"]), ("x-m4r", ["m4r"]),
  ("x-matroska", ["mka"]), ("x-mpegurl", ["m3u", "m3u8"]), ("x-ms-wax", ["wax"]),
  ("x-ms-wma", ["wma"]), ("x-pn-realaudio", ["ra", "ram"]), ("x-pn-realaudio-plugin", ["rpm"]),
  ("x-sd2", ["sd2"]), ("x-smd", ["smd", "smx", "smz"]), ("xm", ["xm"])]

def films : List (String × List String) := [
  ("3gpp", ["3gp", "3gpp"]), ("3gpp2", ["3g2", "3gp2"]), ("annodex", ["axv"]), ("divx", ["divx"]),
  ("h261", ["h261"]), ("h263", ["h263"]), ("h264", ["h264"]), ("jpeg", ["jpgv"]), ("jpm", ["jpgm"]),
  ("mj2", ["mj2", "mjp2"]), ("mp4", ["mp4", "mp4v", "mpg4"]),
  ("mpeg", ["m1v", "m2v", "mod", "mp2", "mp2v", "mpa", "mpe", "mpeg", "mpg", "mpv2", "vbk"]),
  ("ogg", ["ogv"]), ("quicktime", ["mov", "mqv", "qt"]), ("vnd.dece.hd", ["uvh", "uvvh"]),
  ("vnd.dece.mobile", ["uvm", "uvvm"]), ("vnd.dece.pd", ["uvp", "uvvp"]),
  ("vnd.dece.sd", ["uvs", "uvvs"]), ("vnd.dece.video", ["uvv", "uvvv"]),
  ("vnd.dlna.mpeg-tts", ["m2t", "m2ts", "mts", "ts", "tts"]), ("vnd.dvb.file", ["dvb"]),
  ("vnd.fvt", ["fvt"]), ("vnd.mpegurl", ["m4u", "mxu"]), ("vnd.ms-playready.media.pyv", ["pyv"]),
  ("vnd.uvvu.mp4", ["uvu", "uvvu"]), ("vnd.vivo", ["viv"]), ("webm", ["webm"]),
  ("x-dv", ["dif", "dv"]), ("x-f4v", ["f4v"]), ("x-fli", ["fli"]), ("x-flv", ["flv"]),
  ("x-ivf", ["ivf"]), ("x-la-asf", ["lsf", "lsx"]), ("x-m4v", ["m4v"]),
  ("x-matroska", ["mk3d", "mks", "mkv"]), ("x-mng", ["mng"]),
  ("x-ms-asf", ["asf", "asr", "asx", "nsc"]), ("x-ms-vob", ["vob"]), ("x-ms-wm", ["wm"]),
  ("x-ms-wmp", ["wmp"]), ("x-ms-wmv", ["wmv"]), ("x-ms-wmx", ["wmx"]), ("x-ms-wvx", ["wvx"]),
  ("x-msvideo", ["avi"]), ("x-sgi-movie", ["movie"]), ("x-smv", ["smv"])]

def fonts : List (String × List String) := [
  ("collection", ["ttc"]), ("ttf", ["ttf"]), ("woff2", ["woff2"])]

def models : List (String × List String) := [
  ("gltf+json", ["gltf"]), ("gltf-binary", ["glb"]), ("iges", ["iges", "igs"]),
  ("mesh", ["mesh", "msh", "silo"]), ("vnd.collada+xml", ["dae"]), ("vnd.gdl", ["gdl"]),
  ("vnd.gtw", ["gtw"]), ("vnd.vtu", ["vtu"]), ("vrml", ["vrml"]), ("x3d+binary", ["x3db", "x3dbz"]),
  ("x3d+vrml", ["x3dv", "x3dvz"]), ("x3d+xml", ["x3d", "x3dz"])]

def molecules : List (String × List String) := [
  ("x-cdx", ["cdx"]), ("x-cif", ["cif"]), ("x-cmdf", ["cmdf"]), ("x-cml", ["cml"]),
  ("x-csml", ["csml"]), ("x-xyz", ["xyz"])]

def messages : List (String × List String) := [
  ("rfc822", ["eml", "mht", "mhtml", "mime", "nws"])]

def worlds : List (String × List String) := [
  ("x-3dmf", ["3dm", "3dmf", "qd3", "qd3d"]), ("x-vrml", ["flr", "wrl", "wrz", "xaf", "xof"])]

end WebGateway.Assets.MediaType
