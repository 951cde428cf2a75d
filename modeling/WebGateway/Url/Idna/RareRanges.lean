import WebGateway.Url.Idna.Mapping

/-!
# Rarer characters in host names

Historic scripts, notations, letters for mathematics, and pictures.
-/

set_option autoImplicit false
set_option relaxedAutoImplicit false

namespace WebGateway.Url.Idna

def rareRanges : List Range := [
  ⟨0x10000, 0x1000B, .valid⟩, ⟨0x1000D, 0x10026, .valid⟩, ⟨0x10028, 0x1003A, .valid⟩,
  ⟨0x1003C, 0x1003D, .valid⟩, ⟨0x1003F, 0x1004D, .valid⟩, ⟨0x10050, 0x1005D, .valid⟩,
  ⟨0x10080, 0x100FA, .valid⟩, ⟨0x10100, 0x10102, .valid⟩, ⟨0x10107, 0x10133, .valid⟩,
  ⟨0x10137, 0x1018E, .valid⟩, ⟨0x10190, 0x1019C, .valid⟩, ⟨0x101A0, 0x101A0, .valid⟩,
  ⟨0x101D0, 0x101FD, .valid⟩, ⟨0x10280, 0x1029C, .valid⟩, ⟨0x102A0, 0x102D0, .valid⟩,
  ⟨0x102E0, 0x102FB, .valid⟩, ⟨0x10300, 0x10323, .valid⟩, ⟨0x1032D, 0x1034A, .valid⟩,
  ⟨0x10350, 0x1037A, .valid⟩, ⟨0x10380, 0x1039D, .valid⟩, ⟨0x1039F, 0x103C3, .valid⟩,
  ⟨0x103C8, 0x103D5, .valid⟩, ⟨0x10400, 0x10427, .shifted 40⟩, ⟨0x10428, 0x1049D, .valid⟩,
  ⟨0x104A0, 0x104A9, .valid⟩, ⟨0x104B0, 0x104D3, .shifted 40⟩, ⟨0x104D8, 0x104FB, .valid⟩,
  ⟨0x10500, 0x10527, .valid⟩, ⟨0x10530, 0x10563, .valid⟩, ⟨0x1056F, 0x1056F, .valid⟩,
  ⟨0x10570, 0x1057A, .shifted 39⟩, ⟨0x1057C, 0x1058A, .shifted 39⟩,
  ⟨0x1058C, 0x10592, .shifted 39⟩, ⟨0x10594, 0x10595, .shifted 39⟩, ⟨0x10597, 0x105A1, .valid⟩,
  ⟨0x105A3, 0x105B1, .valid⟩, ⟨0x105B3, 0x105B9, .valid⟩, ⟨0x105BB, 0x105BC, .valid⟩,
  ⟨0x105C0, 0x105F3, .valid⟩, ⟨0x10600, 0x10736, .valid⟩, ⟨0x10740, 0x10755, .valid⟩,
  ⟨0x10760, 0x10767, .valid⟩, ⟨0x10780, 0x10780, .valid⟩,
  ⟨0x10781, 0x10785, .listed [
    0x2D0, 0x2D1, 0xE6, 0x299, 0x253]⟩,
  ⟨0x10787, 0x107B0, .listed [
    0x2A3, 0xAB66, 0x2A5, 0x2A4, 0x256, 0x257, 0x1D91, 0x258, 0x25E, 0x2A9, 0x264, 0x262, 0x260,
    0x29B, 0x127, 0x29C, 0x267, 0x284, 0x2AA, 0x2AB, 0x26C, 0x1DF04, 0xA78E, 0x26E, 0x1DF05,
    0x28E, 0x1DF06, 0xF8, 0x276, 0x277, 0x71, 0x27A, 0x1DF08, 0x27D, 0x27E, 0x280, 0x2A8, 0x2A6,
    0xAB67, 0x2A7, 0x288, 0x2C71]⟩,
  ⟨0x107B2, 0x107BA, .listed [
    0x28F, 0x2A1, 0x2A2, 0x298, 0x1C0, 0x1C1, 0x1C2, 0x1DF0A, 0x1DF1E]⟩,
  ⟨0x10800, 0x10805, .valid⟩, ⟨0x10808, 0x10808, .valid⟩, ⟨0x1080A, 0x10835, .valid⟩,
  ⟨0x10837, 0x10838, .valid⟩, ⟨0x1083C, 0x1083C, .valid⟩, ⟨0x1083F, 0x10855, .valid⟩,
  ⟨0x10857, 0x1089E, .valid⟩, ⟨0x108A7, 0x108AF, .valid⟩, ⟨0x108E0, 0x108F2, .valid⟩,
  ⟨0x108F4, 0x108F5, .valid⟩, ⟨0x108FB, 0x1091B, .valid⟩, ⟨0x1091F, 0x10939, .valid⟩,
  ⟨0x1093F, 0x10959, .valid⟩, ⟨0x10980, 0x109B7, .valid⟩, ⟨0x109BC, 0x109CF, .valid⟩,
  ⟨0x109D2, 0x10A03, .valid⟩, ⟨0x10A05, 0x10A06, .valid⟩, ⟨0x10A0C, 0x10A13, .valid⟩,
  ⟨0x10A15, 0x10A17, .valid⟩, ⟨0x10A19, 0x10A35, .valid⟩, ⟨0x10A38, 0x10A3A, .valid⟩,
  ⟨0x10A3F, 0x10A48, .valid⟩, ⟨0x10A50, 0x10A58, .valid⟩, ⟨0x10A60, 0x10A9F, .valid⟩,
  ⟨0x10AC0, 0x10AE6, .valid⟩, ⟨0x10AEB, 0x10AF6, .valid⟩, ⟨0x10B00, 0x10B35, .valid⟩,
  ⟨0x10B39, 0x10B55, .valid⟩, ⟨0x10B58, 0x10B72, .valid⟩, ⟨0x10B78, 0x10B91, .valid⟩,
  ⟨0x10B99, 0x10B9C, .valid⟩, ⟨0x10BA9, 0x10BAF, .valid⟩, ⟨0x10C00, 0x10C48, .valid⟩,
  ⟨0x10C80, 0x10CB2, .shifted 64⟩, ⟨0x10CC0, 0x10CF2, .valid⟩, ⟨0x10CFA, 0x10D27, .valid⟩,
  ⟨0x10D30, 0x10D39, .valid⟩, ⟨0x10D40, 0x10D4F, .valid⟩, ⟨0x10D50, 0x10D65, .shifted 32⟩,
  ⟨0x10D69, 0x10D85, .valid⟩, ⟨0x10D8E, 0x10D8F, .valid⟩, ⟨0x10E60, 0x10E7E, .valid⟩,
  ⟨0x10E80, 0x10EA9, .valid⟩, ⟨0x10EAB, 0x10EAD, .valid⟩, ⟨0x10EB0, 0x10EB1, .valid⟩,
  ⟨0x10EC2, 0x10EC7, .valid⟩, ⟨0x10ED0, 0x10ED8, .valid⟩, ⟨0x10EFA, 0x10F27, .valid⟩,
  ⟨0x10F30, 0x10F59, .valid⟩, ⟨0x10F70, 0x10F89, .valid⟩, ⟨0x10FB0, 0x10FCB, .valid⟩,
  ⟨0x10FE0, 0x10FF6, .valid⟩, ⟨0x11000, 0x1104D, .valid⟩, ⟨0x11052, 0x11075, .valid⟩,
  ⟨0x1107F, 0x110BC, .valid⟩, ⟨0x110BE, 0x110C2, .valid⟩, ⟨0x110D0, 0x110E8, .valid⟩,
  ⟨0x110F0, 0x110F9, .valid⟩, ⟨0x11100, 0x11134, .valid⟩, ⟨0x11136, 0x11147, .valid⟩,
  ⟨0x11150, 0x11176, .valid⟩, ⟨0x11180, 0x111DF, .valid⟩, ⟨0x111E1, 0x111F4, .valid⟩,
  ⟨0x11200, 0x11211, .valid⟩, ⟨0x11213, 0x11241, .valid⟩, ⟨0x11280, 0x11286, .valid⟩,
  ⟨0x11288, 0x11288, .valid⟩, ⟨0x1128A, 0x1128D, .valid⟩, ⟨0x1128F, 0x1129D, .valid⟩,
  ⟨0x1129F, 0x112A9, .valid⟩, ⟨0x112B0, 0x112EA, .valid⟩, ⟨0x112F0, 0x112F9, .valid⟩,
  ⟨0x11300, 0x11303, .valid⟩, ⟨0x11305, 0x1130C, .valid⟩, ⟨0x1130F, 0x11310, .valid⟩,
  ⟨0x11313, 0x11328, .valid⟩, ⟨0x1132A, 0x11330, .valid⟩, ⟨0x11332, 0x11333, .valid⟩,
  ⟨0x11335, 0x11339, .valid⟩, ⟨0x1133B, 0x11344, .valid⟩, ⟨0x11347, 0x11348, .valid⟩,
  ⟨0x1134B, 0x1134D, .valid⟩, ⟨0x11350, 0x11350, .valid⟩, ⟨0x11357, 0x11357, .valid⟩,
  ⟨0x1135D, 0x11363, .valid⟩, ⟨0x11366, 0x1136C, .valid⟩, ⟨0x11370, 0x11374, .valid⟩,
  ⟨0x11380, 0x11389, .valid⟩, ⟨0x1138B, 0x1138B, .valid⟩, ⟨0x1138E, 0x1138E, .valid⟩,
  ⟨0x11390, 0x113B5, .valid⟩, ⟨0x113B7, 0x113C0, .valid⟩, ⟨0x113C2, 0x113C2, .valid⟩,
  ⟨0x113C5, 0x113C5, .valid⟩, ⟨0x113C7, 0x113CA, .valid⟩, ⟨0x113CC, 0x113D5, .valid⟩,
  ⟨0x113D7, 0x113D8, .valid⟩, ⟨0x113E1, 0x113E2, .valid⟩, ⟨0x11400, 0x1145B, .valid⟩,
  ⟨0x1145D, 0x11461, .valid⟩, ⟨0x11480, 0x114C7, .valid⟩, ⟨0x114D0, 0x114D9, .valid⟩,
  ⟨0x11580, 0x115B5, .valid⟩, ⟨0x115B8, 0x115DD, .valid⟩, ⟨0x11600, 0x11644, .valid⟩,
  ⟨0x11650, 0x11659, .valid⟩, ⟨0x11660, 0x1166C, .valid⟩, ⟨0x11680, 0x116B9, .valid⟩,
  ⟨0x116C0, 0x116C9, .valid⟩, ⟨0x116D0, 0x116E3, .valid⟩, ⟨0x11700, 0x1171A, .valid⟩,
  ⟨0x1171D, 0x1172B, .valid⟩, ⟨0x11730, 0x11746, .valid⟩, ⟨0x11800, 0x1183B, .valid⟩,
  ⟨0x118A0, 0x118BF, .shifted 32⟩, ⟨0x118C0, 0x118F2, .valid⟩, ⟨0x118FF, 0x11906, .valid⟩,
  ⟨0x11909, 0x11909, .valid⟩, ⟨0x1190C, 0x11913, .valid⟩, ⟨0x11915, 0x11916, .valid⟩,
  ⟨0x11918, 0x11935, .valid⟩, ⟨0x11937, 0x11938, .valid⟩, ⟨0x1193B, 0x11946, .valid⟩,
  ⟨0x11950, 0x11959, .valid⟩, ⟨0x119A0, 0x119A7, .valid⟩, ⟨0x119AA, 0x119D7, .valid⟩,
  ⟨0x119DA, 0x119E4, .valid⟩, ⟨0x11A00, 0x11A47, .valid⟩, ⟨0x11A50, 0x11AA2, .valid⟩,
  ⟨0x11AB0, 0x11AF8, .valid⟩, ⟨0x11B00, 0x11B09, .valid⟩, ⟨0x11B60, 0x11B67, .valid⟩,
  ⟨0x11BC0, 0x11BE1, .valid⟩, ⟨0x11BF0, 0x11BF9, .valid⟩, ⟨0x11C00, 0x11C08, .valid⟩,
  ⟨0x11C0A, 0x11C36, .valid⟩, ⟨0x11C38, 0x11C45, .valid⟩, ⟨0x11C50, 0x11C6C, .valid⟩,
  ⟨0x11C70, 0x11C8F, .valid⟩, ⟨0x11C92, 0x11CA7, .valid⟩, ⟨0x11CA9, 0x11CB6, .valid⟩,
  ⟨0x11D00, 0x11D06, .valid⟩, ⟨0x11D08, 0x11D09, .valid⟩, ⟨0x11D0B, 0x11D36, .valid⟩,
  ⟨0x11D3A, 0x11D3A, .valid⟩, ⟨0x11D3C, 0x11D3D, .valid⟩, ⟨0x11D3F, 0x11D47, .valid⟩,
  ⟨0x11D50, 0x11D59, .valid⟩, ⟨0x11D60, 0x11D65, .valid⟩, ⟨0x11D67, 0x11D68, .valid⟩,
  ⟨0x11D6A, 0x11D8E, .valid⟩, ⟨0x11D90, 0x11D91, .valid⟩, ⟨0x11D93, 0x11D98, .valid⟩,
  ⟨0x11DA0, 0x11DA9, .valid⟩, ⟨0x11DB0, 0x11DDB, .valid⟩, ⟨0x11DE0, 0x11DE9, .valid⟩,
  ⟨0x11EE0, 0x11EF8, .valid⟩, ⟨0x11F00, 0x11F10, .valid⟩, ⟨0x11F12, 0x11F3A, .valid⟩,
  ⟨0x11F3E, 0x11F5A, .valid⟩, ⟨0x11FB0, 0x11FB0, .valid⟩, ⟨0x11FC0, 0x11FF1, .valid⟩,
  ⟨0x11FFF, 0x12399, .valid⟩, ⟨0x12400, 0x1246E, .valid⟩, ⟨0x12470, 0x12474, .valid⟩,
  ⟨0x12480, 0x12543, .valid⟩, ⟨0x12F90, 0x12FF2, .valid⟩, ⟨0x13000, 0x1342F, .valid⟩,
  ⟨0x13440, 0x13455, .valid⟩, ⟨0x13460, 0x143FA, .valid⟩, ⟨0x14400, 0x14646, .valid⟩,
  ⟨0x16100, 0x16139, .valid⟩, ⟨0x16800, 0x16A38, .valid⟩, ⟨0x16A40, 0x16A5E, .valid⟩,
  ⟨0x16A60, 0x16A69, .valid⟩, ⟨0x16A6E, 0x16ABE, .valid⟩, ⟨0x16AC0, 0x16AC9, .valid⟩,
  ⟨0x16AD0, 0x16AED, .valid⟩, ⟨0x16AF0, 0x16AF5, .valid⟩, ⟨0x16B00, 0x16B45, .valid⟩,
  ⟨0x16B50, 0x16B59, .valid⟩, ⟨0x16B5B, 0x16B61, .valid⟩, ⟨0x16B63, 0x16B77, .valid⟩,
  ⟨0x16B7D, 0x16B8F, .valid⟩, ⟨0x16D40, 0x16D79, .valid⟩, ⟨0x16E40, 0x16E5F, .shifted 32⟩,
  ⟨0x16E60, 0x16E9A, .valid⟩, ⟨0x16EA0, 0x16EB8, .shifted 27⟩, ⟨0x16EBB, 0x16ED3, .valid⟩,
  ⟨0x16F00, 0x16F4A, .valid⟩, ⟨0x16F4F, 0x16F87, .valid⟩, ⟨0x16F8F, 0x16F9F, .valid⟩,
  ⟨0x16FE0, 0x16FE4, .valid⟩, ⟨0x16FF0, 0x16FF6, .valid⟩, ⟨0x17000, 0x18CD5, .valid⟩,
  ⟨0x18CFF, 0x18D1E, .valid⟩, ⟨0x18D80, 0x18DF2, .valid⟩, ⟨0x1AFF0, 0x1AFF3, .valid⟩,
  ⟨0x1AFF5, 0x1AFFB, .valid⟩, ⟨0x1AFFD, 0x1AFFE, .valid⟩, ⟨0x1B000, 0x1B122, .valid⟩,
  ⟨0x1B132, 0x1B132, .valid⟩, ⟨0x1B150, 0x1B152, .valid⟩, ⟨0x1B155, 0x1B155, .valid⟩,
  ⟨0x1B164, 0x1B167, .valid⟩, ⟨0x1B170, 0x1B2FB, .valid⟩, ⟨0x1BC00, 0x1BC6A, .valid⟩,
  ⟨0x1BC70, 0x1BC7C, .valid⟩, ⟨0x1BC80, 0x1BC88, .valid⟩, ⟨0x1BC90, 0x1BC99, .valid⟩,
  ⟨0x1BC9C, 0x1BC9F, .valid⟩, ⟨0x1BCA0, 0x1BCA3, .dropped⟩, ⟨0x1CC00, 0x1CCD5, .valid⟩,
  ⟨0x1CCD6, 0x1CCEF, .shifted (-117877)⟩, ⟨0x1CCF0, 0x1CCF9, .shifted (-117952)⟩,
  ⟨0x1CCFA, 0x1CCFC, .valid⟩, ⟨0x1CD00, 0x1CEB3, .valid⟩, ⟨0x1CEBA, 0x1CED0, .valid⟩,
  ⟨0x1CEE0, 0x1CEF0, .valid⟩, ⟨0x1CF00, 0x1CF2D, .valid⟩, ⟨0x1CF30, 0x1CF46, .valid⟩,
  ⟨0x1CF50, 0x1CFC3, .valid⟩, ⟨0x1D000, 0x1D0F5, .valid⟩, ⟨0x1D100, 0x1D126, .valid⟩,
  ⟨0x1D129, 0x1D15D, .valid⟩,
  ⟨0x1D15E, 0x1D164, .spelledEach [
    [0x1D157, 0x1D165], [0x1D158, 0x1D165], [0x1D158, 0x1D165, 0x1D16E],
    [0x1D158, 0x1D165, 0x1D16F], [0x1D158, 0x1D165, 0x1D170], [0x1D158, 0x1D165, 0x1D171],
    [0x1D158, 0x1D165, 0x1D172]]⟩,
  ⟨0x1D165, 0x1D172, .valid⟩, ⟨0x1D173, 0x1D17A, .dropped⟩, ⟨0x1D17B, 0x1D1BA, .valid⟩,
  ⟨0x1D1BB, 0x1D1C0, .spelledEach [
    [0x1D1B9, 0x1D165], [0x1D1BA, 0x1D165], [0x1D1B9, 0x1D165, 0x1D16E],
    [0x1D1BA, 0x1D165, 0x1D16E], [0x1D1B9, 0x1D165, 0x1D16F], [0x1D1BA, 0x1D165, 0x1D16F]]⟩,
  ⟨0x1D1C1, 0x1D1EA, .valid⟩, ⟨0x1D200, 0x1D245, .valid⟩, ⟨0x1D2C0, 0x1D2D3, .valid⟩,
  ⟨0x1D2E0, 0x1D2F3, .valid⟩, ⟨0x1D300, 0x1D356, .valid⟩, ⟨0x1D360, 0x1D378, .valid⟩,
  ⟨0x1D400, 0x1D419, .shifted (-119711)⟩, ⟨0x1D41A, 0x1D433, .shifted (-119737)⟩,
  ⟨0x1D434, 0x1D44D, .shifted (-119763)⟩, ⟨0x1D44E, 0x1D454, .shifted (-119789)⟩,
  ⟨0x1D456, 0x1D467, .shifted (-119789)⟩, ⟨0x1D468, 0x1D481, .shifted (-119815)⟩,
  ⟨0x1D482, 0x1D49B, .shifted (-119841)⟩, ⟨0x1D49C, 0x1D49C, .shifted (-119867)⟩,
  ⟨0x1D49E, 0x1D49F, .shifted (-119867)⟩, ⟨0x1D4A2, 0x1D4A2, .shifted (-119867)⟩,
  ⟨0x1D4A5, 0x1D4A6, .shifted (-119867)⟩, ⟨0x1D4A9, 0x1D4AC, .shifted (-119867)⟩,
  ⟨0x1D4AE, 0x1D4B5, .shifted (-119867)⟩, ⟨0x1D4B6, 0x1D4B9, .shifted (-119893)⟩,
  ⟨0x1D4BB, 0x1D4BB, .shifted (-119893)⟩, ⟨0x1D4BD, 0x1D4C3, .shifted (-119893)⟩,
  ⟨0x1D4C5, 0x1D4CF, .shifted (-119893)⟩, ⟨0x1D4D0, 0x1D4E9, .shifted (-119919)⟩,
  ⟨0x1D4EA, 0x1D503, .shifted (-119945)⟩, ⟨0x1D504, 0x1D505, .shifted (-119971)⟩,
  ⟨0x1D507, 0x1D50A, .shifted (-119971)⟩, ⟨0x1D50D, 0x1D514, .shifted (-119971)⟩,
  ⟨0x1D516, 0x1D51C, .shifted (-119971)⟩, ⟨0x1D51E, 0x1D537, .shifted (-119997)⟩,
  ⟨0x1D538, 0x1D539, .shifted (-120023)⟩, ⟨0x1D53B, 0x1D53E, .shifted (-120023)⟩,
  ⟨0x1D540, 0x1D544, .shifted (-120023)⟩, ⟨0x1D546, 0x1D546, .shifted (-120023)⟩,
  ⟨0x1D54A, 0x1D550, .shifted (-120023)⟩, ⟨0x1D552, 0x1D56B, .shifted (-120049)⟩,
  ⟨0x1D56C, 0x1D585, .shifted (-120075)⟩, ⟨0x1D586, 0x1D59F, .shifted (-120101)⟩,
  ⟨0x1D5A0, 0x1D5B9, .shifted (-120127)⟩, ⟨0x1D5BA, 0x1D5D3, .shifted (-120153)⟩,
  ⟨0x1D5D4, 0x1D5ED, .shifted (-120179)⟩, ⟨0x1D5EE, 0x1D607, .shifted (-120205)⟩,
  ⟨0x1D608, 0x1D621, .shifted (-120231)⟩, ⟨0x1D622, 0x1D63B, .shifted (-120257)⟩,
  ⟨0x1D63C, 0x1D655, .shifted (-120283)⟩, ⟨0x1D656, 0x1D66F, .shifted (-120309)⟩,
  ⟨0x1D670, 0x1D689, .shifted (-120335)⟩, ⟨0x1D68A, 0x1D6A3, .shifted (-120361)⟩,
  ⟨0x1D6A4, 0x1D6A5, .listed [
    0x131, 0x237]⟩,
  ⟨0x1D6A8, 0x1D6B8, .shifted (-119543)⟩, ⟨0x1D6B9, 0x1D6B9, .shifted (-119553)⟩,
  ⟨0x1D6BA, 0x1D6C0, .shifted (-119543)⟩, ⟨0x1D6C1, 0x1D6C1, .shifted (-111802)⟩,
  ⟨0x1D6C2, 0x1D6D2, .shifted (-119569)⟩, ⟨0x1D6D3, 0x1D6D3, .shifted (-119568)⟩,
  ⟨0x1D6D4, 0x1D6DA, .shifted (-119569)⟩,
  ⟨0x1D6DB, 0x1D6E1, .listed [
    0x2202, 0x3B5, 0x3B8, 0x3BA, 0x3C6, 0x3C1, 0x3C0]⟩,
  ⟨0x1D6E2, 0x1D6F2, .shifted (-119601)⟩, ⟨0x1D6F3, 0x1D6F3, .shifted (-119611)⟩,
  ⟨0x1D6F4, 0x1D6FA, .shifted (-119601)⟩, ⟨0x1D6FB, 0x1D6FB, .shifted (-111860)⟩,
  ⟨0x1D6FC, 0x1D70C, .shifted (-119627)⟩, ⟨0x1D70D, 0x1D70D, .shifted (-119626)⟩,
  ⟨0x1D70E, 0x1D714, .shifted (-119627)⟩,
  ⟨0x1D715, 0x1D71B, .listed [
    0x2202, 0x3B5, 0x3B8, 0x3BA, 0x3C6, 0x3C1, 0x3C0]⟩,
  ⟨0x1D71C, 0x1D72C, .shifted (-119659)⟩, ⟨0x1D72D, 0x1D72D, .shifted (-119669)⟩,
  ⟨0x1D72E, 0x1D734, .shifted (-119659)⟩, ⟨0x1D735, 0x1D735, .shifted (-111918)⟩,
  ⟨0x1D736, 0x1D746, .shifted (-119685)⟩, ⟨0x1D747, 0x1D747, .shifted (-119684)⟩,
  ⟨0x1D748, 0x1D74E, .shifted (-119685)⟩,
  ⟨0x1D74F, 0x1D755, .listed [
    0x2202, 0x3B5, 0x3B8, 0x3BA, 0x3C6, 0x3C1, 0x3C0]⟩,
  ⟨0x1D756, 0x1D766, .shifted (-119717)⟩, ⟨0x1D767, 0x1D767, .shifted (-119727)⟩,
  ⟨0x1D768, 0x1D76E, .shifted (-119717)⟩, ⟨0x1D76F, 0x1D76F, .shifted (-111976)⟩,
  ⟨0x1D770, 0x1D780, .shifted (-119743)⟩, ⟨0x1D781, 0x1D781, .shifted (-119742)⟩,
  ⟨0x1D782, 0x1D788, .shifted (-119743)⟩,
  ⟨0x1D789, 0x1D78F, .listed [
    0x2202, 0x3B5, 0x3B8, 0x3BA, 0x3C6, 0x3C1, 0x3C0]⟩,
  ⟨0x1D790, 0x1D7A0, .shifted (-119775)⟩, ⟨0x1D7A1, 0x1D7A1, .shifted (-119785)⟩,
  ⟨0x1D7A2, 0x1D7A8, .shifted (-119775)⟩, ⟨0x1D7A9, 0x1D7A9, .shifted (-112034)⟩,
  ⟨0x1D7AA, 0x1D7BA, .shifted (-119801)⟩, ⟨0x1D7BB, 0x1D7BB, .shifted (-119800)⟩,
  ⟨0x1D7BC, 0x1D7C2, .shifted (-119801)⟩,
  ⟨0x1D7C3, 0x1D7CB, .listed [
    0x2202, 0x3B5, 0x3B8, 0x3BA, 0x3C6, 0x3C1, 0x3C0, 0x3DD, 0x3DD]⟩,
  ⟨0x1D7CE, 0x1D7D7, .shifted (-120734)⟩, ⟨0x1D7D8, 0x1D7E1, .shifted (-120744)⟩,
  ⟨0x1D7E2, 0x1D7EB, .shifted (-120754)⟩, ⟨0x1D7EC, 0x1D7F5, .shifted (-120764)⟩,
  ⟨0x1D7F6, 0x1D7FF, .shifted (-120774)⟩, ⟨0x1D800, 0x1DA8B, .valid⟩, ⟨0x1DA9B, 0x1DA9F, .valid⟩,
  ⟨0x1DAA1, 0x1DAAF, .valid⟩, ⟨0x1DF00, 0x1DF1E, .valid⟩, ⟨0x1DF25, 0x1DF2A, .valid⟩,
  ⟨0x1E000, 0x1E006, .valid⟩, ⟨0x1E008, 0x1E018, .valid⟩, ⟨0x1E01B, 0x1E021, .valid⟩,
  ⟨0x1E023, 0x1E024, .valid⟩, ⟨0x1E026, 0x1E02A, .valid⟩, ⟨0x1E030, 0x1E038, .shifted (-121856)⟩,
  ⟨0x1E039, 0x1E03B, .shifted (-121855)⟩, ⟨0x1E03C, 0x1E046, .shifted (-121854)⟩,
  ⟨0x1E047, 0x1E050, .listed [
    0x44B, 0x44D, 0x44E, 0xA689, 0x4D9, 0x456, 0x458, 0x4E9, 0x4AF, 0x4CF]⟩,
  ⟨0x1E051, 0x1E059, .shifted (-121889)⟩,
  ⟨0x1E05A, 0x1E05E, .listed [
    0x43A, 0x43B, 0x43E, 0x43F, 0x441]⟩,
  ⟨0x1E05F, 0x1E064, .shifted (-121884)⟩,
  ⟨0x1E065, 0x1E06D, .listed [
    0x44A, 0x44B, 0x491, 0x456, 0x455, 0x45F, 0x4AB, 0xA651, 0x4B1]⟩,
  ⟨0x1E08F, 0x1E08F, .valid⟩, ⟨0x1E100, 0x1E12C, .valid⟩, ⟨0x1E130, 0x1E13D, .valid⟩,
  ⟨0x1E140, 0x1E149, .valid⟩, ⟨0x1E14E, 0x1E14F, .valid⟩, ⟨0x1E290, 0x1E2AE, .valid⟩,
  ⟨0x1E2C0, 0x1E2F9, .valid⟩, ⟨0x1E2FF, 0x1E2FF, .valid⟩, ⟨0x1E4D0, 0x1E4F9, .valid⟩,
  ⟨0x1E5D0, 0x1E5FA, .valid⟩, ⟨0x1E5FF, 0x1E5FF, .valid⟩, ⟨0x1E6C0, 0x1E6DE, .valid⟩,
  ⟨0x1E6E0, 0x1E6F5, .valid⟩, ⟨0x1E6FE, 0x1E6FF, .valid⟩, ⟨0x1E7E0, 0x1E7E6, .valid⟩,
  ⟨0x1E7E8, 0x1E7EB, .valid⟩, ⟨0x1E7ED, 0x1E7EE, .valid⟩, ⟨0x1E7F0, 0x1E7FE, .valid⟩,
  ⟨0x1E800, 0x1E8C4, .valid⟩, ⟨0x1E8C7, 0x1E8D6, .valid⟩, ⟨0x1E900, 0x1E921, .shifted 34⟩,
  ⟨0x1E922, 0x1E94B, .valid⟩, ⟨0x1E950, 0x1E959, .valid⟩, ⟨0x1E95E, 0x1E95F, .valid⟩,
  ⟨0x1EC71, 0x1ECB4, .valid⟩, ⟨0x1ED01, 0x1ED3D, .valid⟩,
  ⟨0x1EE00, 0x1EE03, .listed [
    0x627, 0x628, 0x62C, 0x62F]⟩,
  ⟨0x1EE05, 0x1EE1F, .listed [
    0x648, 0x632, 0x62D, 0x637, 0x64A, 0x643, 0x644, 0x645, 0x646, 0x633, 0x639, 0x641, 0x635,
    0x642, 0x631, 0x634, 0x62A, 0x62B, 0x62E, 0x630, 0x636, 0x638, 0x63A, 0x66E, 0x6BA, 0x6A1,
    0x66F]⟩,
  ⟨0x1EE21, 0x1EE22, .listed [
    0x628, 0x62C]⟩,
  ⟨0x1EE24, 0x1EE24, .shifted (-124893)⟩, ⟨0x1EE27, 0x1EE27, .shifted (-124922)⟩,
  ⟨0x1EE29, 0x1EE32, .listed [
    0x64A, 0x643, 0x644, 0x645, 0x646, 0x633, 0x639, 0x641, 0x635, 0x642]⟩,
  ⟨0x1EE34, 0x1EE37, .listed [
    0x634, 0x62A, 0x62B, 0x62E]⟩,
  ⟨0x1EE39, 0x1EE39, .shifted (-124931)⟩, ⟨0x1EE3B, 0x1EE3B, .shifted (-124929)⟩,
  ⟨0x1EE42, 0x1EE42, .shifted (-124950)⟩, ⟨0x1EE47, 0x1EE47, .shifted (-124954)⟩,
  ⟨0x1EE49, 0x1EE49, .shifted (-124927)⟩, ⟨0x1EE4B, 0x1EE4B, .shifted (-124935)⟩,
  ⟨0x1EE4D, 0x1EE4F, .listed [
    0x646, 0x633, 0x639]⟩,
  ⟨0x1EE51, 0x1EE52, .listed [
    0x635, 0x642]⟩,
  ⟨0x1EE54, 0x1EE54, .shifted (-124960)⟩, ⟨0x1EE57, 0x1EE57, .shifted (-124969)⟩,
  ⟨0x1EE59, 0x1EE59, .shifted (-124963)⟩, ⟨0x1EE5B, 0x1EE5B, .shifted (-124961)⟩,
  ⟨0x1EE5D, 0x1EE5D, .shifted (-124835)⟩, ⟨0x1EE5F, 0x1EE5F, .shifted (-124912)⟩,
  ⟨0x1EE61, 0x1EE62, .listed [
    0x628, 0x62C]⟩,
  ⟨0x1EE64, 0x1EE64, .shifted (-124957)⟩,
  ⟨0x1EE67, 0x1EE6A, .listed [
    0x62D, 0x637, 0x64A, 0x643]⟩,
  ⟨0x1EE6C, 0x1EE72, .listed [
    0x645, 0x646, 0x633, 0x639, 0x641, 0x635, 0x642]⟩,
  ⟨0x1EE74, 0x1EE77, .listed [
    0x634, 0x62A, 0x62B, 0x62E]⟩,
  ⟨0x1EE79, 0x1EE7C, .listed [
    0x636, 0x638, 0x63A, 0x66E]⟩,
  ⟨0x1EE7E, 0x1EE7E, .shifted (-124893)⟩,
  ⟨0x1EE80, 0x1EE89, .listed [
    0x627, 0x628, 0x62C, 0x62F, 0x647, 0x648, 0x632, 0x62D, 0x637, 0x64A]⟩,
  ⟨0x1EE8B, 0x1EE9B, .listed [
    0x644, 0x645, 0x646, 0x633, 0x639, 0x641, 0x635, 0x642, 0x631, 0x634, 0x62A, 0x62B, 0x62E,
    0x630, 0x636, 0x638, 0x63A]⟩,
  ⟨0x1EEA1, 0x1EEA3, .listed [
    0x628, 0x62C, 0x62F]⟩,
  ⟨0x1EEA5, 0x1EEA9, .listed [
    0x648, 0x632, 0x62D, 0x637, 0x64A]⟩,
  ⟨0x1EEAB, 0x1EEBB, .listed [
    0x644, 0x645, 0x646, 0x633, 0x639, 0x641, 0x635, 0x642, 0x631, 0x634, 0x62A, 0x62B, 0x62E,
    0x630, 0x636, 0x638, 0x63A]⟩,
  ⟨0x1EEF0, 0x1EEF1, .valid⟩, ⟨0x1F000, 0x1F02B, .valid⟩, ⟨0x1F030, 0x1F093, .valid⟩,
  ⟨0x1F0A0, 0x1F0AE, .valid⟩, ⟨0x1F0B1, 0x1F0BF, .valid⟩, ⟨0x1F0C1, 0x1F0CF, .valid⟩,
  ⟨0x1F0D1, 0x1F0F5, .valid⟩,
  ⟨0x1F101, 0x1F10A, .spelledEach [
    [0x30, 0x2C], [0x31, 0x2C], [0x32, 0x2C], [0x33, 0x2C], [0x34, 0x2C], [0x35, 0x2C],
    [0x36, 0x2C], [0x37, 0x2C], [0x38, 0x2C], [0x39, 0x2C]]⟩,
  ⟨0x1F10B, 0x1F10F, .valid⟩,
  ⟨0x1F110, 0x1F12E, .spelledEach [
    [0x28, 0x61, 0x29], [0x28, 0x62, 0x29], [0x28, 0x63, 0x29], [0x28, 0x64, 0x29],
    [0x28, 0x65, 0x29], [0x28, 0x66, 0x29], [0x28, 0x67, 0x29], [0x28, 0x68, 0x29],
    [0x28, 0x69, 0x29], [0x28, 0x6A, 0x29], [0x28, 0x6B, 0x29], [0x28, 0x6C, 0x29],
    [0x28, 0x6D, 0x29], [0x28, 0x6E, 0x29], [0x28, 0x6F, 0x29], [0x28, 0x70, 0x29],
    [0x28, 0x71, 0x29], [0x28, 0x72, 0x29], [0x28, 0x73, 0x29], [0x28, 0x74, 0x29],
    [0x28, 0x75, 0x29], [0x28, 0x76, 0x29], [0x28, 0x77, 0x29], [0x28, 0x78, 0x29],
    [0x28, 0x79, 0x29], [0x28, 0x7A, 0x29], [0x3014, 0x73, 0x3015], [0x63], [0x72], [0x63, 0x64],
    [0x77, 0x7A]]⟩,
  ⟨0x1F12F, 0x1F12F, .valid⟩, ⟨0x1F130, 0x1F149, .shifted (-127183)⟩,
  ⟨0x1F14A, 0x1F14F, .spelledEach [
    [0x68, 0x76], [0x6D, 0x76], [0x73, 0x64], [0x73, 0x73], [0x70, 0x70, 0x76], [0x77, 0x63]]⟩,
  ⟨0x1F150, 0x1F169, .valid⟩,
  ⟨0x1F16A, 0x1F16C, .spelledEach [
    [0x6D, 0x63], [0x6D, 0x64], [0x6D, 0x72]]⟩,
  ⟨0x1F16D, 0x1F18F, .valid⟩, ⟨0x1F190, 0x1F190, .spelled [0x64, 0x6A]⟩,
  ⟨0x1F191, 0x1F1AD, .valid⟩, ⟨0x1F1E6, 0x1F1FF, .valid⟩,
  ⟨0x1F200, 0x1F202, .spelledEach [
    [0x307B, 0x304B], [0x30B3, 0x30B3], [0x30B5]]⟩,
  ⟨0x1F210, 0x1F23B, .listed [
    0x624B, 0x5B57, 0x53CC, 0x30C7, 0x4E8C, 0x591A, 0x89E3, 0x5929, 0x4EA4, 0x6620, 0x7121,
    0x6599, 0x524D, 0x5F8C, 0x518D, 0x65B0, 0x521D, 0x7D42, 0x751F, 0x8CA9, 0x58F0, 0x5439,
    0x6F14, 0x6295, 0x6355, 0x4E00, 0x4E09, 0x904A, 0x5DE6, 0x4E2D, 0x53F3, 0x6307, 0x8D70,
    0x6253, 0x7981, 0x7A7A, 0x5408, 0x6E80, 0x6709, 0x6708, 0x7533, 0x5272, 0x55B6, 0x914D]⟩,
  ⟨0x1F240, 0x1F248, .spelledEach [
    [0x3014, 0x672C, 0x3015], [0x3014, 0x4E09, 0x3015], [0x3014, 0x4E8C, 0x3015],
    [0x3014, 0x5B89, 0x3015], [0x3014, 0x70B9, 0x3015], [0x3014, 0x6253, 0x3015],
    [0x3014, 0x76D7, 0x3015], [0x3014, 0x52DD, 0x3015], [0x3014, 0x6557, 0x3015]]⟩,
  ⟨0x1F250, 0x1F251, .listed [
    0x5F97, 0x53EF]⟩,
  ⟨0x1F260, 0x1F265, .valid⟩, ⟨0x1F300, 0x1F6D8, .valid⟩, ⟨0x1F6DC, 0x1F6EC, .valid⟩,
  ⟨0x1F6F0, 0x1F6FC, .valid⟩, ⟨0x1F700, 0x1F7D9, .valid⟩, ⟨0x1F7E0, 0x1F7EB, .valid⟩,
  ⟨0x1F7F0, 0x1F7F0, .valid⟩, ⟨0x1F800, 0x1F80B, .valid⟩, ⟨0x1F810, 0x1F847, .valid⟩,
  ⟨0x1F850, 0x1F859, .valid⟩, ⟨0x1F860, 0x1F887, .valid⟩, ⟨0x1F890, 0x1F8AD, .valid⟩,
  ⟨0x1F8B0, 0x1F8BB, .valid⟩, ⟨0x1F8C0, 0x1F8C1, .valid⟩, ⟨0x1F8D0, 0x1F8D8, .valid⟩,
  ⟨0x1F900, 0x1FA57, .valid⟩, ⟨0x1FA60, 0x1FA6D, .valid⟩, ⟨0x1FA70, 0x1FA7C, .valid⟩,
  ⟨0x1FA80, 0x1FA8A, .valid⟩, ⟨0x1FA8E, 0x1FAC6, .valid⟩, ⟨0x1FAC8, 0x1FAC8, .valid⟩,
  ⟨0x1FACD, 0x1FADC, .valid⟩, ⟨0x1FADF, 0x1FAEA, .valid⟩, ⟨0x1FAEF, 0x1FAF8, .valid⟩,
  ⟨0x1FB00, 0x1FB92, .valid⟩, ⟨0x1FB94, 0x1FBEF, .valid⟩, ⟨0x1FBF0, 0x1FBF9, .shifted (-129984)⟩,
  ⟨0x1FBFA, 0x1FBFA, .valid⟩]

end WebGateway.Url.Idna
