import WebGateway.Url.Idna.Mapping

/-!
# Other scripts in host names

Armenian, Georgian and Cherokee, and the scripts of the Near East, of Africa and of South Asia.
-/

set_option autoImplicit false
set_option relaxedAutoImplicit false

namespace WebGateway.Url.Idna

def scriptRanges : List Range := [
  ⟨0x0531, 0x0556, .shifted 48⟩, ⟨0x0559, 0x0586, .valid⟩,
  ⟨0x0587, 0x0587, .spelled [0x565, 0x582]⟩, ⟨0x0588, 0x058A, .valid⟩, ⟨0x058D, 0x058F, .valid⟩,
  ⟨0x0591, 0x05C7, .valid⟩, ⟨0x05D0, 0x05EA, .valid⟩, ⟨0x05EF, 0x05F4, .valid⟩,
  ⟨0x0606, 0x061B, .valid⟩, ⟨0x061D, 0x0674, .valid⟩,
  ⟨0x0675, 0x0678, .spelledEach [
    [0x627, 0x674], [0x648, 0x674], [0x6C7, 0x674], [0x64A, 0x674]]⟩,
  ⟨0x0679, 0x06DC, .valid⟩, ⟨0x06DE, 0x070D, .valid⟩, ⟨0x0710, 0x074A, .valid⟩,
  ⟨0x074D, 0x07B1, .valid⟩, ⟨0x07C0, 0x07FA, .valid⟩, ⟨0x07FD, 0x082D, .valid⟩,
  ⟨0x0830, 0x083E, .valid⟩, ⟨0x0840, 0x085B, .valid⟩, ⟨0x085E, 0x085E, .valid⟩,
  ⟨0x0860, 0x086A, .valid⟩, ⟨0x0870, 0x088F, .valid⟩, ⟨0x0897, 0x08E1, .valid⟩,
  ⟨0x08E3, 0x0957, .valid⟩,
  ⟨0x0958, 0x095F, .spelledEach [
    [0x915, 0x93C], [0x916, 0x93C], [0x917, 0x93C], [0x91C, 0x93C], [0x921, 0x93C],
    [0x922, 0x93C], [0x92B, 0x93C], [0x92F, 0x93C]]⟩,
  ⟨0x0960, 0x0983, .valid⟩, ⟨0x0985, 0x098C, .valid⟩, ⟨0x098F, 0x0990, .valid⟩,
  ⟨0x0993, 0x09A8, .valid⟩, ⟨0x09AA, 0x09B0, .valid⟩, ⟨0x09B2, 0x09B2, .valid⟩,
  ⟨0x09B6, 0x09B9, .valid⟩, ⟨0x09BC, 0x09C4, .valid⟩, ⟨0x09C7, 0x09C8, .valid⟩,
  ⟨0x09CB, 0x09CE, .valid⟩, ⟨0x09D7, 0x09D7, .valid⟩,
  ⟨0x09DC, 0x09DD, .spelledEach [
    [0x9A1, 0x9BC], [0x9A2, 0x9BC]]⟩,
  ⟨0x09DF, 0x09DF, .spelled [0x9AF, 0x9BC]⟩, ⟨0x09E0, 0x09E3, .valid⟩, ⟨0x09E6, 0x09FE, .valid⟩,
  ⟨0x0A01, 0x0A03, .valid⟩, ⟨0x0A05, 0x0A0A, .valid⟩, ⟨0x0A0F, 0x0A10, .valid⟩,
  ⟨0x0A13, 0x0A28, .valid⟩, ⟨0x0A2A, 0x0A30, .valid⟩, ⟨0x0A32, 0x0A32, .valid⟩,
  ⟨0x0A33, 0x0A33, .spelled [0xA32, 0xA3C]⟩, ⟨0x0A35, 0x0A35, .valid⟩,
  ⟨0x0A36, 0x0A36, .spelled [0xA38, 0xA3C]⟩, ⟨0x0A38, 0x0A39, .valid⟩, ⟨0x0A3C, 0x0A3C, .valid⟩,
  ⟨0x0A3E, 0x0A42, .valid⟩, ⟨0x0A47, 0x0A48, .valid⟩, ⟨0x0A4B, 0x0A4D, .valid⟩,
  ⟨0x0A51, 0x0A51, .valid⟩,
  ⟨0x0A59, 0x0A5B, .spelledEach [
    [0xA16, 0xA3C], [0xA17, 0xA3C], [0xA1C, 0xA3C]]⟩,
  ⟨0x0A5C, 0x0A5C, .valid⟩, ⟨0x0A5E, 0x0A5E, .spelled [0xA2B, 0xA3C]⟩, ⟨0x0A66, 0x0A76, .valid⟩,
  ⟨0x0A81, 0x0A83, .valid⟩, ⟨0x0A85, 0x0A8D, .valid⟩, ⟨0x0A8F, 0x0A91, .valid⟩,
  ⟨0x0A93, 0x0AA8, .valid⟩, ⟨0x0AAA, 0x0AB0, .valid⟩, ⟨0x0AB2, 0x0AB3, .valid⟩,
  ⟨0x0AB5, 0x0AB9, .valid⟩, ⟨0x0ABC, 0x0AC5, .valid⟩, ⟨0x0AC7, 0x0AC9, .valid⟩,
  ⟨0x0ACB, 0x0ACD, .valid⟩, ⟨0x0AD0, 0x0AD0, .valid⟩, ⟨0x0AE0, 0x0AE3, .valid⟩,
  ⟨0x0AE6, 0x0AF1, .valid⟩, ⟨0x0AF9, 0x0AFF, .valid⟩, ⟨0x0B01, 0x0B03, .valid⟩,
  ⟨0x0B05, 0x0B0C, .valid⟩, ⟨0x0B0F, 0x0B10, .valid⟩, ⟨0x0B13, 0x0B28, .valid⟩,
  ⟨0x0B2A, 0x0B30, .valid⟩, ⟨0x0B32, 0x0B33, .valid⟩, ⟨0x0B35, 0x0B39, .valid⟩,
  ⟨0x0B3C, 0x0B44, .valid⟩, ⟨0x0B47, 0x0B48, .valid⟩, ⟨0x0B4B, 0x0B4D, .valid⟩,
  ⟨0x0B55, 0x0B57, .valid⟩,
  ⟨0x0B5C, 0x0B5D, .spelledEach [
    [0xB21, 0xB3C], [0xB22, 0xB3C]]⟩,
  ⟨0x0B5F, 0x0B63, .valid⟩, ⟨0x0B66, 0x0B77, .valid⟩, ⟨0x0B82, 0x0B83, .valid⟩,
  ⟨0x0B85, 0x0B8A, .valid⟩, ⟨0x0B8E, 0x0B90, .valid⟩, ⟨0x0B92, 0x0B95, .valid⟩,
  ⟨0x0B99, 0x0B9A, .valid⟩, ⟨0x0B9C, 0x0B9C, .valid⟩, ⟨0x0B9E, 0x0B9F, .valid⟩,
  ⟨0x0BA3, 0x0BA4, .valid⟩, ⟨0x0BA8, 0x0BAA, .valid⟩, ⟨0x0BAE, 0x0BB9, .valid⟩,
  ⟨0x0BBE, 0x0BC2, .valid⟩, ⟨0x0BC6, 0x0BC8, .valid⟩, ⟨0x0BCA, 0x0BCD, .valid⟩,
  ⟨0x0BD0, 0x0BD0, .valid⟩, ⟨0x0BD7, 0x0BD7, .valid⟩, ⟨0x0BE6, 0x0BFA, .valid⟩,
  ⟨0x0C00, 0x0C0C, .valid⟩, ⟨0x0C0E, 0x0C10, .valid⟩, ⟨0x0C12, 0x0C28, .valid⟩,
  ⟨0x0C2A, 0x0C39, .valid⟩, ⟨0x0C3C, 0x0C44, .valid⟩, ⟨0x0C46, 0x0C48, .valid⟩,
  ⟨0x0C4A, 0x0C4D, .valid⟩, ⟨0x0C55, 0x0C56, .valid⟩, ⟨0x0C58, 0x0C5A, .valid⟩,
  ⟨0x0C5C, 0x0C5D, .valid⟩, ⟨0x0C60, 0x0C63, .valid⟩, ⟨0x0C66, 0x0C6F, .valid⟩,
  ⟨0x0C77, 0x0C8C, .valid⟩, ⟨0x0C8E, 0x0C90, .valid⟩, ⟨0x0C92, 0x0CA8, .valid⟩,
  ⟨0x0CAA, 0x0CB3, .valid⟩, ⟨0x0CB5, 0x0CB9, .valid⟩, ⟨0x0CBC, 0x0CC4, .valid⟩,
  ⟨0x0CC6, 0x0CC8, .valid⟩, ⟨0x0CCA, 0x0CCD, .valid⟩, ⟨0x0CD5, 0x0CD6, .valid⟩,
  ⟨0x0CDC, 0x0CDE, .valid⟩, ⟨0x0CE0, 0x0CE3, .valid⟩, ⟨0x0CE6, 0x0CEF, .valid⟩,
  ⟨0x0CF1, 0x0CF3, .valid⟩, ⟨0x0D00, 0x0D0C, .valid⟩, ⟨0x0D0E, 0x0D10, .valid⟩,
  ⟨0x0D12, 0x0D44, .valid⟩, ⟨0x0D46, 0x0D48, .valid⟩, ⟨0x0D4A, 0x0D4F, .valid⟩,
  ⟨0x0D54, 0x0D63, .valid⟩, ⟨0x0D66, 0x0D7F, .valid⟩, ⟨0x0D81, 0x0D83, .valid⟩,
  ⟨0x0D85, 0x0D96, .valid⟩, ⟨0x0D9A, 0x0DB1, .valid⟩, ⟨0x0DB3, 0x0DBB, .valid⟩,
  ⟨0x0DBD, 0x0DBD, .valid⟩, ⟨0x0DC0, 0x0DC6, .valid⟩, ⟨0x0DCA, 0x0DCA, .valid⟩,
  ⟨0x0DCF, 0x0DD4, .valid⟩, ⟨0x0DD6, 0x0DD6, .valid⟩, ⟨0x0DD8, 0x0DDF, .valid⟩,
  ⟨0x0DE6, 0x0DEF, .valid⟩, ⟨0x0DF2, 0x0DF4, .valid⟩, ⟨0x0E01, 0x0E32, .valid⟩,
  ⟨0x0E33, 0x0E33, .spelled [0xE4D, 0xE32]⟩, ⟨0x0E34, 0x0E3A, .valid⟩, ⟨0x0E3F, 0x0E5B, .valid⟩,
  ⟨0x0E81, 0x0E82, .valid⟩, ⟨0x0E84, 0x0E84, .valid⟩, ⟨0x0E86, 0x0E8A, .valid⟩,
  ⟨0x0E8C, 0x0EA3, .valid⟩, ⟨0x0EA5, 0x0EA5, .valid⟩, ⟨0x0EA7, 0x0EB2, .valid⟩,
  ⟨0x0EB3, 0x0EB3, .spelled [0xECD, 0xEB2]⟩, ⟨0x0EB4, 0x0EBD, .valid⟩, ⟨0x0EC0, 0x0EC4, .valid⟩,
  ⟨0x0EC6, 0x0EC6, .valid⟩, ⟨0x0EC8, 0x0ECE, .valid⟩, ⟨0x0ED0, 0x0ED9, .valid⟩,
  ⟨0x0EDC, 0x0EDD, .spelledEach [
    [0xEAB, 0xE99], [0xEAB, 0xEA1]]⟩,
  ⟨0x0EDE, 0x0EDF, .valid⟩, ⟨0x0F00, 0x0F0B, .valid⟩, ⟨0x0F0C, 0x0F0C, .shifted (-1)⟩,
  ⟨0x0F0D, 0x0F42, .valid⟩, ⟨0x0F43, 0x0F43, .spelled [0xF42, 0xFB7]⟩, ⟨0x0F44, 0x0F47, .valid⟩,
  ⟨0x0F49, 0x0F4C, .valid⟩, ⟨0x0F4D, 0x0F4D, .spelled [0xF4C, 0xFB7]⟩, ⟨0x0F4E, 0x0F51, .valid⟩,
  ⟨0x0F52, 0x0F52, .spelled [0xF51, 0xFB7]⟩, ⟨0x0F53, 0x0F56, .valid⟩,
  ⟨0x0F57, 0x0F57, .spelled [0xF56, 0xFB7]⟩, ⟨0x0F58, 0x0F5B, .valid⟩,
  ⟨0x0F5C, 0x0F5C, .spelled [0xF5B, 0xFB7]⟩, ⟨0x0F5D, 0x0F68, .valid⟩,
  ⟨0x0F69, 0x0F69, .spelled [0xF40, 0xFB5]⟩, ⟨0x0F6A, 0x0F6C, .valid⟩, ⟨0x0F71, 0x0F72, .valid⟩,
  ⟨0x0F73, 0x0F73, .spelled [0xF71, 0xF72]⟩, ⟨0x0F74, 0x0F74, .valid⟩,
  ⟨0x0F75, 0x0F79, .spelledEach [
    [0xF71, 0xF74], [0xFB2, 0xF80], [0xFB2, 0xF71, 0xF80], [0xFB3, 0xF80], [0xFB3, 0xF71, 0xF80]]⟩,
  ⟨0x0F7A, 0x0F80, .valid⟩, ⟨0x0F81, 0x0F81, .spelled [0xF71, 0xF80]⟩, ⟨0x0F82, 0x0F92, .valid⟩,
  ⟨0x0F93, 0x0F93, .spelled [0xF92, 0xFB7]⟩, ⟨0x0F94, 0x0F97, .valid⟩, ⟨0x0F99, 0x0F9C, .valid⟩,
  ⟨0x0F9D, 0x0F9D, .spelled [0xF9C, 0xFB7]⟩, ⟨0x0F9E, 0x0FA1, .valid⟩,
  ⟨0x0FA2, 0x0FA2, .spelled [0xFA1, 0xFB7]⟩, ⟨0x0FA3, 0x0FA6, .valid⟩,
  ⟨0x0FA7, 0x0FA7, .spelled [0xFA6, 0xFB7]⟩, ⟨0x0FA8, 0x0FAB, .valid⟩,
  ⟨0x0FAC, 0x0FAC, .spelled [0xFAB, 0xFB7]⟩, ⟨0x0FAD, 0x0FB8, .valid⟩,
  ⟨0x0FB9, 0x0FB9, .spelled [0xF90, 0xFB5]⟩, ⟨0x0FBA, 0x0FBC, .valid⟩, ⟨0x0FBE, 0x0FCC, .valid⟩,
  ⟨0x0FCE, 0x0FDA, .valid⟩, ⟨0x1000, 0x109F, .valid⟩, ⟨0x10A0, 0x10C5, .shifted 7264⟩,
  ⟨0x10C7, 0x10C7, .shifted 7264⟩, ⟨0x10CD, 0x10CD, .shifted 7264⟩, ⟨0x10D0, 0x10FB, .valid⟩,
  ⟨0x10FC, 0x10FC, .shifted (-32)⟩, ⟨0x10FD, 0x115E, .valid⟩, ⟨0x115F, 0x1160, .dropped⟩,
  ⟨0x1161, 0x1248, .valid⟩, ⟨0x124A, 0x124D, .valid⟩, ⟨0x1250, 0x1256, .valid⟩,
  ⟨0x1258, 0x1258, .valid⟩, ⟨0x125A, 0x125D, .valid⟩, ⟨0x1260, 0x1288, .valid⟩,
  ⟨0x128A, 0x128D, .valid⟩, ⟨0x1290, 0x12B0, .valid⟩, ⟨0x12B2, 0x12B5, .valid⟩,
  ⟨0x12B8, 0x12BE, .valid⟩, ⟨0x12C0, 0x12C0, .valid⟩, ⟨0x12C2, 0x12C5, .valid⟩,
  ⟨0x12C8, 0x12D6, .valid⟩, ⟨0x12D8, 0x1310, .valid⟩, ⟨0x1312, 0x1315, .valid⟩,
  ⟨0x1318, 0x135A, .valid⟩, ⟨0x135D, 0x137C, .valid⟩, ⟨0x1380, 0x1399, .valid⟩,
  ⟨0x13A0, 0x13F5, .valid⟩, ⟨0x13F8, 0x13FD, .shifted (-8)⟩, ⟨0x1400, 0x167F, .valid⟩,
  ⟨0x1681, 0x169C, .valid⟩, ⟨0x16A0, 0x16F8, .valid⟩, ⟨0x1700, 0x1715, .valid⟩,
  ⟨0x171F, 0x1736, .valid⟩, ⟨0x1740, 0x1753, .valid⟩, ⟨0x1760, 0x176C, .valid⟩,
  ⟨0x176E, 0x1770, .valid⟩, ⟨0x1772, 0x1773, .valid⟩, ⟨0x1780, 0x17B3, .valid⟩,
  ⟨0x17B4, 0x17B5, .dropped⟩, ⟨0x17B6, 0x17DD, .valid⟩, ⟨0x17E0, 0x17E9, .valid⟩,
  ⟨0x17F0, 0x17F9, .valid⟩, ⟨0x1800, 0x180A, .valid⟩, ⟨0x180B, 0x180F, .dropped⟩,
  ⟨0x1810, 0x1819, .valid⟩, ⟨0x1820, 0x1878, .valid⟩, ⟨0x1880, 0x18AA, .valid⟩,
  ⟨0x18B0, 0x18F5, .valid⟩, ⟨0x1900, 0x191E, .valid⟩, ⟨0x1920, 0x192B, .valid⟩,
  ⟨0x1930, 0x193B, .valid⟩, ⟨0x1940, 0x1940, .valid⟩, ⟨0x1944, 0x196D, .valid⟩,
  ⟨0x1970, 0x1974, .valid⟩, ⟨0x1980, 0x19AB, .valid⟩, ⟨0x19B0, 0x19C9, .valid⟩,
  ⟨0x19D0, 0x19DA, .valid⟩, ⟨0x19DE, 0x1A1B, .valid⟩, ⟨0x1A1E, 0x1A5E, .valid⟩,
  ⟨0x1A60, 0x1A7C, .valid⟩, ⟨0x1A7F, 0x1A89, .valid⟩, ⟨0x1A90, 0x1A99, .valid⟩,
  ⟨0x1AA0, 0x1AAD, .valid⟩, ⟨0x1AB0, 0x1ADD, .valid⟩, ⟨0x1AE0, 0x1AEB, .valid⟩,
  ⟨0x1B00, 0x1B4C, .valid⟩, ⟨0x1B4E, 0x1BF3, .valid⟩, ⟨0x1BFC, 0x1C37, .valid⟩,
  ⟨0x1C3B, 0x1C49, .valid⟩, ⟨0x1C4D, 0x1C7F, .valid⟩,
  ⟨0x1C80, 0x1C88, .listed [
    0x432, 0x434, 0x43E, 0x441, 0x442, 0x442, 0x44A, 0x463, 0xA64B]⟩,
  ⟨0x1C89, 0x1C8A, .paired⟩, ⟨0x1C90, 0x1CBA, .shifted (-3008)⟩,
  ⟨0x1CBD, 0x1CBF, .shifted (-3008)⟩, ⟨0x1CC0, 0x1CC7, .valid⟩, ⟨0x1CD0, 0x1CFA, .valid⟩]

end WebGateway.Url.Idna
