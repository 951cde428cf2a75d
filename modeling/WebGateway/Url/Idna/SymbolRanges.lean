import WebGateway.Url.Idna.Mapping

/-!
# Signs in host names

Punctuation, letter-like signs, enclosed characters, arrows and shapes.
-/

set_option autoImplicit false
set_option relaxedAutoImplicit false

namespace WebGateway.Url.Idna

def symbolRanges : List Range := [
  ⟨0x2000, 0x200A, .spelled [0x20]⟩, ⟨0x200B, 0x200B, .dropped⟩, ⟨0x200C, 0x200D, .valid⟩,
  ⟨0x2010, 0x2010, .valid⟩, ⟨0x2011, 0x2011, .shifted (-1)⟩, ⟨0x2012, 0x2016, .valid⟩,
  ⟨0x2017, 0x2017, .spelled [0x20, 0x333]⟩, ⟨0x2018, 0x2023, .valid⟩, ⟨0x2027, 0x2027, .valid⟩,
  ⟨0x202F, 0x202F, .shifted (-8207)⟩, ⟨0x2030, 0x2032, .valid⟩,
  ⟨0x2033, 0x2034, .spelledEach [
    [0x2032, 0x2032], [0x2032, 0x2032, 0x2032]]⟩,
  ⟨0x2035, 0x2035, .valid⟩,
  ⟨0x2036, 0x2037, .spelledEach [
    [0x2035, 0x2035], [0x2035, 0x2035, 0x2035]]⟩,
  ⟨0x2038, 0x203B, .valid⟩, ⟨0x203C, 0x203C, .spelled [0x21, 0x21]⟩, ⟨0x203D, 0x203D, .valid⟩,
  ⟨0x203E, 0x203E, .spelled [0x20, 0x305]⟩, ⟨0x203F, 0x2046, .valid⟩,
  ⟨0x2047, 0x2049, .spelledEach [
    [0x3F, 0x3F], [0x3F, 0x21], [0x21, 0x3F]]⟩,
  ⟨0x204A, 0x2056, .valid⟩, ⟨0x2057, 0x2057, .spelled [0x2032, 0x2032, 0x2032, 0x2032]⟩,
  ⟨0x2058, 0x205E, .valid⟩, ⟨0x205F, 0x205F, .shifted (-8255)⟩, ⟨0x2060, 0x2064, .dropped⟩,
  ⟨0x206A, 0x206F, .dropped⟩,
  ⟨0x2070, 0x2071, .listed [
    0x30, 0x69]⟩,
  ⟨0x2074, 0x2079, .shifted (-8256)⟩,
  ⟨0x207A, 0x207F, .listed [
    0x2B, 0x2212, 0x3D, 0x28, 0x29, 0x6E]⟩,
  ⟨0x2080, 0x2089, .shifted (-8272)⟩,
  ⟨0x208A, 0x208E, .listed [
    0x2B, 0x2212, 0x3D, 0x28, 0x29]⟩,
  ⟨0x2090, 0x209C, .listed [
    0x61, 0x65, 0x6F, 0x78, 0x259, 0x68, 0x6B, 0x6C, 0x6D, 0x6E, 0x70, 0x73, 0x74]⟩,
  ⟨0x20A0, 0x20A7, .valid⟩, ⟨0x20A8, 0x20A8, .spelled [0x72, 0x73]⟩, ⟨0x20A9, 0x20C1, .valid⟩,
  ⟨0x20D0, 0x20F0, .valid⟩,
  ⟨0x2100, 0x2103, .spelledEach [
    [0x61, 0x2F, 0x63], [0x61, 0x2F, 0x73], [0x63], [0xB0, 0x63]]⟩,
  ⟨0x2104, 0x2104, .valid⟩,
  ⟨0x2105, 0x2107, .spelledEach [
    [0x63, 0x2F, 0x6F], [0x63, 0x2F, 0x75], [0x25B]]⟩,
  ⟨0x2108, 0x2108, .valid⟩,
  ⟨0x2109, 0x2113, .spelledEach [
    [0xB0, 0x66], [0x67], [0x68], [0x68], [0x68], [0x68], [0x127], [0x69], [0x69], [0x6C], [0x6C]]⟩,
  ⟨0x2114, 0x2114, .valid⟩,
  ⟨0x2115, 0x2116, .spelledEach [
    [0x6E], [0x6E, 0x6F]]⟩,
  ⟨0x2117, 0x2118, .valid⟩,
  ⟨0x2119, 0x211D, .listed [
    0x70, 0x71, 0x72, 0x72, 0x72]⟩,
  ⟨0x211E, 0x211F, .valid⟩,
  ⟨0x2120, 0x2122, .spelledEach [
    [0x73, 0x6D], [0x74, 0x65, 0x6C], [0x74, 0x6D]]⟩,
  ⟨0x2123, 0x2123, .valid⟩, ⟨0x2124, 0x2124, .shifted (-8362)⟩, ⟨0x2125, 0x2125, .valid⟩,
  ⟨0x2126, 0x2126, .shifted (-7517)⟩, ⟨0x2127, 0x2127, .valid⟩, ⟨0x2128, 0x2128, .shifted (-8366)⟩,
  ⟨0x2129, 0x2129, .valid⟩,
  ⟨0x212A, 0x212D, .listed [
    0x6B, 0xE5, 0x62, 0x63]⟩,
  ⟨0x212E, 0x212E, .valid⟩,
  ⟨0x212F, 0x2139, .listed [
    0x65, 0x65, 0x66, 0x214E, 0x6D, 0x6F, 0x5D0, 0x5D1, 0x5D2, 0x5D3, 0x69]⟩,
  ⟨0x213A, 0x213A, .valid⟩,
  ⟨0x213B, 0x2140, .spelledEach [
    [0x66, 0x61, 0x78], [0x3C0], [0x3B3], [0x3B3], [0x3C0], [0x2211]]⟩,
  ⟨0x2141, 0x2144, .valid⟩,
  ⟨0x2145, 0x2149, .listed [
    0x64, 0x64, 0x65, 0x69, 0x6A]⟩,
  ⟨0x214A, 0x214F, .valid⟩,
  ⟨0x2150, 0x217F, .spelledEach [
    [0x31, 0x2044, 0x37], [0x31, 0x2044, 0x39], [0x31, 0x2044, 0x31, 0x30], [0x31, 0x2044, 0x33],
    [0x32, 0x2044, 0x33], [0x31, 0x2044, 0x35], [0x32, 0x2044, 0x35], [0x33, 0x2044, 0x35],
    [0x34, 0x2044, 0x35], [0x31, 0x2044, 0x36], [0x35, 0x2044, 0x36], [0x31, 0x2044, 0x38],
    [0x33, 0x2044, 0x38], [0x35, 0x2044, 0x38], [0x37, 0x2044, 0x38], [0x31, 0x2044], [0x69],
    [0x69, 0x69], [0x69, 0x69, 0x69], [0x69, 0x76], [0x76], [0x76, 0x69], [0x76, 0x69, 0x69],
    [0x76, 0x69, 0x69, 0x69], [0x69, 0x78], [0x78], [0x78, 0x69], [0x78, 0x69, 0x69], [0x6C],
    [0x63], [0x64], [0x6D], [0x69], [0x69, 0x69], [0x69, 0x69, 0x69], [0x69, 0x76], [0x76],
    [0x76, 0x69], [0x76, 0x69, 0x69], [0x76, 0x69, 0x69, 0x69], [0x69, 0x78], [0x78],
    [0x78, 0x69], [0x78, 0x69, 0x69], [0x6C], [0x63], [0x64], [0x6D]]⟩,
  ⟨0x2180, 0x2182, .valid⟩, ⟨0x2183, 0x2184, .paired⟩, ⟨0x2185, 0x2188, .valid⟩,
  ⟨0x2189, 0x2189, .spelled [0x30, 0x2044, 0x33]⟩, ⟨0x218A, 0x218B, .valid⟩,
  ⟨0x2190, 0x222B, .valid⟩,
  ⟨0x222C, 0x222D, .spelledEach [
    [0x222B, 0x222B], [0x222B, 0x222B, 0x222B]]⟩,
  ⟨0x222E, 0x222E, .valid⟩,
  ⟨0x222F, 0x2230, .spelledEach [
    [0x222E, 0x222E], [0x222E, 0x222E, 0x222E]]⟩,
  ⟨0x2231, 0x2328, .valid⟩, ⟨0x2329, 0x232A, .shifted 3295⟩, ⟨0x232B, 0x2429, .valid⟩,
  ⟨0x2440, 0x244A, .valid⟩, ⟨0x2460, 0x2468, .shifted (-9263)⟩,
  ⟨0x2469, 0x2487, .spelledEach [
    [0x31, 0x30], [0x31, 0x31], [0x31, 0x32], [0x31, 0x33], [0x31, 0x34], [0x31, 0x35],
    [0x31, 0x36], [0x31, 0x37], [0x31, 0x38], [0x31, 0x39], [0x32, 0x30], [0x28, 0x31, 0x29],
    [0x28, 0x32, 0x29], [0x28, 0x33, 0x29], [0x28, 0x34, 0x29], [0x28, 0x35, 0x29],
    [0x28, 0x36, 0x29], [0x28, 0x37, 0x29], [0x28, 0x38, 0x29], [0x28, 0x39, 0x29],
    [0x28, 0x31, 0x30, 0x29], [0x28, 0x31, 0x31, 0x29], [0x28, 0x31, 0x32, 0x29],
    [0x28, 0x31, 0x33, 0x29], [0x28, 0x31, 0x34, 0x29], [0x28, 0x31, 0x35, 0x29],
    [0x28, 0x31, 0x36, 0x29], [0x28, 0x31, 0x37, 0x29], [0x28, 0x31, 0x38, 0x29],
    [0x28, 0x31, 0x39, 0x29], [0x28, 0x32, 0x30, 0x29]]⟩,
  ⟨0x249C, 0x24B5, .spelledEach [
    [0x28, 0x61, 0x29], [0x28, 0x62, 0x29], [0x28, 0x63, 0x29], [0x28, 0x64, 0x29],
    [0x28, 0x65, 0x29], [0x28, 0x66, 0x29], [0x28, 0x67, 0x29], [0x28, 0x68, 0x29],
    [0x28, 0x69, 0x29], [0x28, 0x6A, 0x29], [0x28, 0x6B, 0x29], [0x28, 0x6C, 0x29],
    [0x28, 0x6D, 0x29], [0x28, 0x6E, 0x29], [0x28, 0x6F, 0x29], [0x28, 0x70, 0x29],
    [0x28, 0x71, 0x29], [0x28, 0x72, 0x29], [0x28, 0x73, 0x29], [0x28, 0x74, 0x29],
    [0x28, 0x75, 0x29], [0x28, 0x76, 0x29], [0x28, 0x77, 0x29], [0x28, 0x78, 0x29],
    [0x28, 0x79, 0x29], [0x28, 0x7A, 0x29]]⟩,
  ⟨0x24B6, 0x24CF, .shifted (-9301)⟩, ⟨0x24D0, 0x24E9, .shifted (-9327)⟩,
  ⟨0x24EA, 0x24EA, .shifted (-9402)⟩, ⟨0x24EB, 0x2A0B, .valid⟩,
  ⟨0x2A0C, 0x2A0C, .spelled [0x222B, 0x222B, 0x222B, 0x222B]⟩, ⟨0x2A0D, 0x2A73, .valid⟩,
  ⟨0x2A74, 0x2A76, .spelledEach [
    [0x3A, 0x3A, 0x3D], [0x3D, 0x3D], [0x3D, 0x3D, 0x3D]]⟩,
  ⟨0x2A77, 0x2ADB, .valid⟩, ⟨0x2ADC, 0x2ADC, .spelled [0x2ADD, 0x338]⟩, ⟨0x2ADD, 0x2B73, .valid⟩,
  ⟨0x2B76, 0x2BFF, .valid⟩]

end WebGateway.Url.Idna
