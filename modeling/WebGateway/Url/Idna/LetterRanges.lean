import WebGateway.Url.Idna.Mapping

/-!
# Latin, Greek and Cyrillic letters in host names

The letters and marks of the European alphabets. Capitals are shifted to their small letters, and
compatibility forms are spelled out.
-/

set_option autoImplicit false
set_option relaxedAutoImplicit false

namespace WebGateway.Url.Idna

def letterRanges : List Range := [
  ⟨0x00A0, 0x00A0, .shifted (-128)⟩, ⟨0x00A1, 0x00A7, .valid⟩,
  ⟨0x00A8, 0x00A8, .spelled [0x20, 0x308]⟩, ⟨0x00A9, 0x00A9, .valid⟩,
  ⟨0x00AA, 0x00AA, .shifted (-73)⟩, ⟨0x00AB, 0x00AC, .valid⟩, ⟨0x00AD, 0x00AD, .dropped⟩,
  ⟨0x00AE, 0x00AE, .valid⟩, ⟨0x00AF, 0x00AF, .spelled [0x20, 0x304]⟩, ⟨0x00B0, 0x00B1, .valid⟩,
  ⟨0x00B2, 0x00B5, .spelledEach [
    [0x32], [0x33], [0x20, 0x301], [0x3BC]]⟩,
  ⟨0x00B6, 0x00B7, .valid⟩,
  ⟨0x00B8, 0x00BA, .spelledEach [
    [0x20, 0x327], [0x31], [0x6F]]⟩,
  ⟨0x00BB, 0x00BB, .valid⟩,
  ⟨0x00BC, 0x00BE, .spelledEach [
    [0x31, 0x2044, 0x34], [0x31, 0x2044, 0x32], [0x33, 0x2044, 0x34]]⟩,
  ⟨0x00BF, 0x00BF, .valid⟩, ⟨0x00C0, 0x00D6, .shifted 32⟩, ⟨0x00D7, 0x00D7, .valid⟩,
  ⟨0x00D8, 0x00DE, .shifted 32⟩, ⟨0x00DF, 0x00FF, .valid⟩, ⟨0x0100, 0x012F, .paired⟩,
  ⟨0x0130, 0x0130, .spelled [0x69, 0x307]⟩, ⟨0x0131, 0x0131, .valid⟩,
  ⟨0x0132, 0x0133, .spelled [0x69, 0x6A]⟩, ⟨0x0134, 0x0137, .paired⟩, ⟨0x0138, 0x0138, .valid⟩,
  ⟨0x0139, 0x013E, .paired⟩, ⟨0x013F, 0x0140, .spelled [0x6C, 0xB7]⟩, ⟨0x0141, 0x0148, .paired⟩,
  ⟨0x0149, 0x0149, .spelled [0x2BC, 0x6E]⟩, ⟨0x014A, 0x0177, .paired⟩,
  ⟨0x0178, 0x0178, .shifted (-121)⟩, ⟨0x0179, 0x017E, .paired⟩, ⟨0x017F, 0x017F, .shifted (-268)⟩,
  ⟨0x0180, 0x0180, .valid⟩, ⟨0x0181, 0x0181, .shifted 210⟩, ⟨0x0182, 0x0185, .paired⟩,
  ⟨0x0186, 0x0186, .shifted 206⟩, ⟨0x0187, 0x0188, .paired⟩, ⟨0x0189, 0x018A, .shifted 205⟩,
  ⟨0x018B, 0x018C, .paired⟩, ⟨0x018D, 0x018D, .valid⟩,
  ⟨0x018E, 0x0190, .listed [
    0x1DD, 0x259, 0x25B]⟩,
  ⟨0x0191, 0x0192, .paired⟩,
  ⟨0x0193, 0x0194, .listed [
    0x260, 0x263]⟩,
  ⟨0x0195, 0x0195, .valid⟩,
  ⟨0x0196, 0x0197, .listed [
    0x269, 0x268]⟩,
  ⟨0x0198, 0x0199, .paired⟩, ⟨0x019A, 0x019B, .valid⟩,
  ⟨0x019C, 0x019D, .listed [
    0x26F, 0x272]⟩,
  ⟨0x019E, 0x019E, .valid⟩, ⟨0x019F, 0x019F, .shifted 214⟩, ⟨0x01A0, 0x01A5, .paired⟩,
  ⟨0x01A6, 0x01A6, .shifted 218⟩, ⟨0x01A7, 0x01A8, .paired⟩, ⟨0x01A9, 0x01A9, .shifted 218⟩,
  ⟨0x01AA, 0x01AB, .valid⟩, ⟨0x01AC, 0x01AD, .paired⟩, ⟨0x01AE, 0x01AE, .shifted 218⟩,
  ⟨0x01AF, 0x01B0, .paired⟩, ⟨0x01B1, 0x01B2, .shifted 217⟩, ⟨0x01B3, 0x01B6, .paired⟩,
  ⟨0x01B7, 0x01B7, .shifted 219⟩, ⟨0x01B8, 0x01B9, .paired⟩, ⟨0x01BA, 0x01BB, .valid⟩,
  ⟨0x01BC, 0x01BD, .paired⟩, ⟨0x01BE, 0x01C3, .valid⟩,
  ⟨0x01C4, 0x01CC, .spelledEach [
    [0x64, 0x17E], [0x64, 0x17E], [0x64, 0x17E], [0x6C, 0x6A], [0x6C, 0x6A], [0x6C, 0x6A],
    [0x6E, 0x6A], [0x6E, 0x6A], [0x6E, 0x6A]]⟩,
  ⟨0x01CD, 0x01DC, .paired⟩, ⟨0x01DD, 0x01DD, .valid⟩, ⟨0x01DE, 0x01EF, .paired⟩,
  ⟨0x01F0, 0x01F0, .valid⟩, ⟨0x01F1, 0x01F3, .spelled [0x64, 0x7A]⟩, ⟨0x01F4, 0x01F5, .paired⟩,
  ⟨0x01F6, 0x01F7, .listed [
    0x195, 0x1BF]⟩,
  ⟨0x01F8, 0x021F, .paired⟩, ⟨0x0220, 0x0220, .shifted (-130)⟩, ⟨0x0221, 0x0221, .valid⟩,
  ⟨0x0222, 0x0233, .paired⟩, ⟨0x0234, 0x0239, .valid⟩, ⟨0x023A, 0x023A, .shifted 10795⟩,
  ⟨0x023B, 0x023C, .paired⟩,
  ⟨0x023D, 0x023E, .listed [
    0x19A, 0x2C66]⟩,
  ⟨0x023F, 0x0240, .valid⟩, ⟨0x0241, 0x0242, .paired⟩,
  ⟨0x0243, 0x0245, .listed [
    0x180, 0x289, 0x28C]⟩,
  ⟨0x0246, 0x024F, .paired⟩, ⟨0x0250, 0x02AF, .valid⟩,
  ⟨0x02B0, 0x02B8, .listed [
    0x68, 0x266, 0x6A, 0x72, 0x279, 0x27B, 0x281, 0x77, 0x79]⟩,
  ⟨0x02B9, 0x02D7, .valid⟩,
  ⟨0x02D8, 0x02DD, .spelledEach [
    [0x20, 0x306], [0x20, 0x307], [0x20, 0x30A], [0x20, 0x328], [0x20, 0x303], [0x20, 0x30B]]⟩,
  ⟨0x02DE, 0x02DF, .valid⟩,
  ⟨0x02E0, 0x02E4, .listed [
    0x263, 0x6C, 0x73, 0x78, 0x295]⟩,
  ⟨0x02E5, 0x033F, .valid⟩, ⟨0x0340, 0x0341, .shifted (-64)⟩, ⟨0x0342, 0x0342, .valid⟩,
  ⟨0x0343, 0x0345, .spelledEach [
    [0x313], [0x308, 0x301], [0x3B9]]⟩,
  ⟨0x0346, 0x034E, .valid⟩, ⟨0x034F, 0x034F, .dropped⟩, ⟨0x0350, 0x036F, .valid⟩,
  ⟨0x0370, 0x0373, .paired⟩, ⟨0x0374, 0x0374, .shifted (-187)⟩, ⟨0x0375, 0x0375, .valid⟩,
  ⟨0x0376, 0x0377, .paired⟩, ⟨0x037A, 0x037A, .spelled [0x20, 0x3B9]⟩, ⟨0x037B, 0x037D, .valid⟩,
  ⟨0x037E, 0x037F, .listed [
    0x3B, 0x3F3]⟩,
  ⟨0x0384, 0x038A, .spelledEach [
    [0x20, 0x301], [0x20, 0x308, 0x301], [0x3AC], [0xB7], [0x3AD], [0x3AE], [0x3AF]]⟩,
  ⟨0x038C, 0x038C, .shifted 64⟩, ⟨0x038E, 0x038F, .shifted 63⟩, ⟨0x0390, 0x0390, .valid⟩,
  ⟨0x0391, 0x03A1, .shifted 32⟩, ⟨0x03A3, 0x03AB, .shifted 32⟩, ⟨0x03AC, 0x03CE, .valid⟩,
  ⟨0x03CF, 0x03D6, .listed [
    0x3D7, 0x3B2, 0x3B8, 0x3C5, 0x3CD, 0x3CB, 0x3C6, 0x3C0]⟩,
  ⟨0x03D7, 0x03D7, .valid⟩, ⟨0x03D8, 0x03EF, .paired⟩,
  ⟨0x03F0, 0x03F2, .listed [
    0x3BA, 0x3C1, 0x3C3]⟩,
  ⟨0x03F3, 0x03F3, .valid⟩,
  ⟨0x03F4, 0x03F5, .listed [
    0x3B8, 0x3B5]⟩,
  ⟨0x03F6, 0x03F6, .valid⟩, ⟨0x03F7, 0x03F8, .paired⟩, ⟨0x03F9, 0x03F9, .shifted (-54)⟩,
  ⟨0x03FA, 0x03FB, .paired⟩, ⟨0x03FC, 0x03FC, .valid⟩, ⟨0x03FD, 0x03FF, .shifted (-130)⟩,
  ⟨0x0400, 0x040F, .shifted 80⟩, ⟨0x0410, 0x042F, .shifted 32⟩, ⟨0x0430, 0x045F, .valid⟩,
  ⟨0x0460, 0x0481, .paired⟩, ⟨0x0482, 0x0489, .valid⟩, ⟨0x048A, 0x04BF, .paired⟩,
  ⟨0x04C0, 0x04C0, .shifted 15⟩, ⟨0x04C1, 0x04CE, .paired⟩, ⟨0x04CF, 0x04CF, .valid⟩,
  ⟨0x04D0, 0x052F, .paired⟩, ⟨0x1D00, 0x1D2B, .valid⟩,
  ⟨0x1D2C, 0x1D2E, .listed [
    0x61, 0xE6, 0x62]⟩,
  ⟨0x1D2F, 0x1D2F, .valid⟩,
  ⟨0x1D30, 0x1D32, .listed [
    0x64, 0x65, 0x1DD]⟩,
  ⟨0x1D33, 0x1D3A, .shifted (-7372)⟩, ⟨0x1D3B, 0x1D3B, .valid⟩,
  ⟨0x1D3C, 0x1D4D, .listed [
    0x6F, 0x223, 0x70, 0x72, 0x74, 0x75, 0x77, 0x61, 0x250, 0x251, 0x1D02, 0x62, 0x64, 0x65,
    0x259, 0x25B, 0x25C, 0x67]⟩,
  ⟨0x1D4E, 0x1D4E, .valid⟩,
  ⟨0x1D4F, 0x1D6A, .listed [
    0x6B, 0x6D, 0x14B, 0x6F, 0x254, 0x1D16, 0x1D17, 0x70, 0x74, 0x75, 0x1D1D, 0x26F, 0x76, 0x1D25,
    0x3B2, 0x3B3, 0x3B4, 0x3C6, 0x3C7, 0x69, 0x72, 0x75, 0x76, 0x3B2, 0x3B3, 0x3C1, 0x3C6, 0x3C7]⟩,
  ⟨0x1D6B, 0x1D77, .valid⟩, ⟨0x1D78, 0x1D78, .shifted (-6459)⟩, ⟨0x1D79, 0x1D9A, .valid⟩,
  ⟨0x1D9B, 0x1DBF, .listed [
    0x252, 0x63, 0x255, 0xF0, 0x25C, 0x66, 0x25F, 0x261, 0x265, 0x268, 0x269, 0x26A, 0x1D7B,
    0x29D, 0x26D, 0x1D85, 0x29F, 0x271, 0x270, 0x272, 0x273, 0x274, 0x275, 0x278, 0x282, 0x283,
    0x1AB, 0x289, 0x28A, 0x1D1C, 0x28B, 0x28C, 0x7A, 0x290, 0x291, 0x292, 0x3B8]⟩,
  ⟨0x1DC0, 0x1DFF, .valid⟩, ⟨0x1E00, 0x1E95, .paired⟩, ⟨0x1E96, 0x1E99, .valid⟩,
  ⟨0x1E9A, 0x1E9B, .spelledEach [
    [0x61, 0x2BE], [0x1E61]]⟩,
  ⟨0x1E9C, 0x1E9D, .valid⟩, ⟨0x1E9E, 0x1E9E, .shifted (-7615)⟩, ⟨0x1E9F, 0x1E9F, .valid⟩,
  ⟨0x1EA0, 0x1EFF, .paired⟩, ⟨0x1F00, 0x1F07, .valid⟩, ⟨0x1F08, 0x1F0F, .shifted (-8)⟩,
  ⟨0x1F10, 0x1F15, .valid⟩, ⟨0x1F18, 0x1F1D, .shifted (-8)⟩, ⟨0x1F20, 0x1F27, .valid⟩,
  ⟨0x1F28, 0x1F2F, .shifted (-8)⟩, ⟨0x1F30, 0x1F37, .valid⟩, ⟨0x1F38, 0x1F3F, .shifted (-8)⟩,
  ⟨0x1F40, 0x1F45, .valid⟩, ⟨0x1F48, 0x1F4D, .shifted (-8)⟩, ⟨0x1F50, 0x1F57, .valid⟩,
  ⟨0x1F59, 0x1F59, .shifted (-8)⟩, ⟨0x1F5B, 0x1F5B, .shifted (-8)⟩,
  ⟨0x1F5D, 0x1F5D, .shifted (-8)⟩, ⟨0x1F5F, 0x1F5F, .shifted (-8)⟩, ⟨0x1F60, 0x1F67, .valid⟩,
  ⟨0x1F68, 0x1F6F, .shifted (-8)⟩, ⟨0x1F70, 0x1F70, .valid⟩, ⟨0x1F71, 0x1F71, .shifted (-7109)⟩,
  ⟨0x1F72, 0x1F72, .valid⟩, ⟨0x1F73, 0x1F73, .shifted (-7110)⟩, ⟨0x1F74, 0x1F74, .valid⟩,
  ⟨0x1F75, 0x1F75, .shifted (-7111)⟩, ⟨0x1F76, 0x1F76, .valid⟩, ⟨0x1F77, 0x1F77, .shifted (-7112)⟩,
  ⟨0x1F78, 0x1F78, .valid⟩, ⟨0x1F79, 0x1F79, .shifted (-7085)⟩, ⟨0x1F7A, 0x1F7A, .valid⟩,
  ⟨0x1F7B, 0x1F7B, .shifted (-7086)⟩, ⟨0x1F7C, 0x1F7C, .valid⟩, ⟨0x1F7D, 0x1F7D, .shifted (-7087)⟩,
  ⟨0x1F80, 0x1FAF, .spelledEach [
    [0x1F00, 0x3B9], [0x1F01, 0x3B9], [0x1F02, 0x3B9], [0x1F03, 0x3B9], [0x1F04, 0x3B9],
    [0x1F05, 0x3B9], [0x1F06, 0x3B9], [0x1F07, 0x3B9], [0x1F00, 0x3B9], [0x1F01, 0x3B9],
    [0x1F02, 0x3B9], [0x1F03, 0x3B9], [0x1F04, 0x3B9], [0x1F05, 0x3B9], [0x1F06, 0x3B9],
    [0x1F07, 0x3B9], [0x1F20, 0x3B9], [0x1F21, 0x3B9], [0x1F22, 0x3B9], [0x1F23, 0x3B9],
    [0x1F24, 0x3B9], [0x1F25, 0x3B9], [0x1F26, 0x3B9], [0x1F27, 0x3B9], [0x1F20, 0x3B9],
    [0x1F21, 0x3B9], [0x1F22, 0x3B9], [0x1F23, 0x3B9], [0x1F24, 0x3B9], [0x1F25, 0x3B9],
    [0x1F26, 0x3B9], [0x1F27, 0x3B9], [0x1F60, 0x3B9], [0x1F61, 0x3B9], [0x1F62, 0x3B9],
    [0x1F63, 0x3B9], [0x1F64, 0x3B9], [0x1F65, 0x3B9], [0x1F66, 0x3B9], [0x1F67, 0x3B9],
    [0x1F60, 0x3B9], [0x1F61, 0x3B9], [0x1F62, 0x3B9], [0x1F63, 0x3B9], [0x1F64, 0x3B9],
    [0x1F65, 0x3B9], [0x1F66, 0x3B9], [0x1F67, 0x3B9]]⟩,
  ⟨0x1FB0, 0x1FB1, .valid⟩,
  ⟨0x1FB2, 0x1FB4, .spelledEach [
    [0x1F70, 0x3B9], [0x3B1, 0x3B9], [0x3AC, 0x3B9]]⟩,
  ⟨0x1FB6, 0x1FB6, .valid⟩,
  ⟨0x1FB7, 0x1FC4, .spelledEach [
    [0x1FB6, 0x3B9], [0x1FB0], [0x1FB1], [0x1F70], [0x3AC], [0x3B1, 0x3B9], [0x20, 0x313],
    [0x3B9], [0x20, 0x313], [0x20, 0x342], [0x20, 0x308, 0x342], [0x1F74, 0x3B9], [0x3B7, 0x3B9],
    [0x3AE, 0x3B9]]⟩,
  ⟨0x1FC6, 0x1FC6, .valid⟩,
  ⟨0x1FC7, 0x1FCF, .spelledEach [
    [0x1FC6, 0x3B9], [0x1F72], [0x3AD], [0x1F74], [0x3AE], [0x3B7, 0x3B9], [0x20, 0x313, 0x300],
    [0x20, 0x313, 0x301], [0x20, 0x313, 0x342]]⟩,
  ⟨0x1FD0, 0x1FD2, .valid⟩, ⟨0x1FD3, 0x1FD3, .shifted (-7235)⟩, ⟨0x1FD6, 0x1FD7, .valid⟩,
  ⟨0x1FD8, 0x1FDB, .listed [
    0x1FD0, 0x1FD1, 0x1F76, 0x3AF]⟩,
  ⟨0x1FDD, 0x1FDF, .spelledEach [
    [0x20, 0x314, 0x300], [0x20, 0x314, 0x301], [0x20, 0x314, 0x342]]⟩,
  ⟨0x1FE0, 0x1FE2, .valid⟩, ⟨0x1FE3, 0x1FE3, .shifted (-7219)⟩, ⟨0x1FE4, 0x1FE7, .valid⟩,
  ⟨0x1FE8, 0x1FEF, .spelledEach [
    [0x1FE0], [0x1FE1], [0x1F7A], [0x3CD], [0x1FE5], [0x20, 0x308, 0x300], [0x20, 0x308, 0x301],
    [0x60]]⟩,
  ⟨0x1FF2, 0x1FF4, .spelledEach [
    [0x1F7C, 0x3B9], [0x3C9, 0x3B9], [0x3CE, 0x3B9]]⟩,
  ⟨0x1FF6, 0x1FF6, .valid⟩,
  ⟨0x1FF7, 0x1FFE, .spelledEach [
    [0x1FF6, 0x3B9], [0x1F78], [0x3CC], [0x1F7C], [0x3CE], [0x3C9, 0x3B9], [0x20, 0x301],
    [0x20, 0x314]]⟩]

end WebGateway.Url.Idna
