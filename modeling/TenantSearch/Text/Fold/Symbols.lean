import TenantSearch.Text.Fold.Rule

/-! Folded forms of Unicode 17.0: punctuation, number forms, enclosed forms, Glagolitic and Coptic.
A character without a row stands for itself. -/
namespace TenantSearch.Text.Folding

private def symbolsRows1 : List (CodeRange Folding) := [
  ⟨0x2000, 0x200A, .spelled [0x20]⟩, ⟨0x2011, 0x2011, .spelled [0x2010]⟩,
  ⟨0x2017, 0x2017, .spelled [0x20]⟩, ⟨0x2024, 0x2024, .spelled [0x2E]⟩,
  ⟨0x2025, 0x2025, .spelled [0x2E, 0x2E]⟩, ⟨0x2026, 0x2026, .spelled [0x2E, 0x2E, 0x2E]⟩,
  ⟨0x202F, 0x202F, .spelled [0x20]⟩, ⟨0x2033, 0x2033, .spelled [0x2032, 0x2032]⟩,
  ⟨0x2034, 0x2034, .spelled [0x2032, 0x2032, 0x2032]⟩, ⟨0x2036, 0x2036, .spelled [0x2035, 0x2035]⟩,
  ⟨0x2037, 0x2037, .spelled [0x2035, 0x2035, 0x2035]⟩, ⟨0x203C, 0x203C, .spelled [0x21, 0x21]⟩,
  ⟨0x203E, 0x203E, .spelled [0x20]⟩, ⟨0x2047, 0x2047, .spelled [0x3F, 0x3F]⟩,
  ⟨0x2048, 0x2048, .spelled [0x3F, 0x21]⟩, ⟨0x2049, 0x2049, .spelled [0x21, 0x3F]⟩,
  ⟨0x2057, 0x2057, .spelled [0x2032, 0x2032, 0x2032, 0x2032]⟩, ⟨0x205F, 0x205F, .spelled [0x20]⟩,
  ⟨0x2070, 0x2070, .spelled [0x30]⟩, ⟨0x2071, 0x2071, .spelled [0x69]⟩,
  ⟨0x2074, 0x2079, .moved 0x34⟩, ⟨0x207A, 0x207A, .spelled [0x2B]⟩,
  ⟨0x207B, 0x207B, .spelled [0x2212]⟩, ⟨0x207C, 0x207C, .spelled [0x3D]⟩,
  ⟨0x207D, 0x207E, .moved 0x28⟩, ⟨0x207F, 0x207F, .spelled [0x6E]⟩, ⟨0x2080, 0x2089, .moved 0x30⟩,
  ⟨0x208A, 0x208A, .spelled [0x2B]⟩, ⟨0x208B, 0x208B, .spelled [0x2212]⟩,
  ⟨0x208C, 0x208C, .spelled [0x3D]⟩, ⟨0x208D, 0x208E, .moved 0x28⟩,
  ⟨0x2090, 0x2090, .spelled [0x61]⟩, ⟨0x2091, 0x2091, .spelled [0x65]⟩,
  ⟨0x2092, 0x2092, .spelled [0x6F]⟩, ⟨0x2093, 0x2093, .spelled [0x78]⟩,
  ⟨0x2094, 0x2094, .spelled [0x259]⟩, ⟨0x2095, 0x2095, .spelled [0x68]⟩,
  ⟨0x2096, 0x2099, .moved 0x6B⟩, ⟨0x209A, 0x209A, .spelled [0x70]⟩, ⟨0x209B, 0x209C, .moved 0x73⟩,
  ⟨0x20A8, 0x20A8, .spelled [0x72, 0x73]⟩, ⟨0x20D0, 0x20F0, .spelled []⟩,
  ⟨0x2100, 0x2100, .spelled [0x61, 0x2F, 0x63]⟩, ⟨0x2101, 0x2101, .spelled [0x61, 0x2F, 0x73]⟩,
  ⟨0x2102, 0x2102, .spelled [0x63]⟩, ⟨0x2103, 0x2103, .spelled [0xB0, 0x63]⟩,
  ⟨0x2105, 0x2105, .spelled [0x63, 0x2F, 0x6F]⟩, ⟨0x2106, 0x2106, .spelled [0x63, 0x2F, 0x75]⟩,
  ⟨0x2107, 0x2107, .spelled [0x25B]⟩, ⟨0x2109, 0x2109, .spelled [0xB0, 0x66]⟩,
  ⟨0x210A, 0x210B, .moved 0x67⟩, ⟨0x210C, 0x210E, .spelled [0x68]⟩,
  ⟨0x210F, 0x210F, .spelled [0x127]⟩, ⟨0x2110, 0x2111, .spelled [0x69]⟩,
  ⟨0x2112, 0x2113, .spelled [0x6C]⟩, ⟨0x2115, 0x2115, .spelled [0x6E]⟩,
  ⟨0x2116, 0x2116, .spelled [0x6E, 0x6F]⟩, ⟨0x2119, 0x211B, .moved 0x70⟩,
  ⟨0x211C, 0x211D, .spelled [0x72]⟩, ⟨0x2120, 0x2120, .spelled [0x73, 0x6D]⟩,
  ⟨0x2121, 0x2121, .spelled [0x74, 0x65, 0x6C]⟩, ⟨0x2122, 0x2122, .spelled [0x74, 0x6D]⟩,
  ⟨0x2124, 0x2124, .spelled [0x7A]⟩, ⟨0x2126, 0x2126, .spelled [0x3C9]⟩,
  ⟨0x2128, 0x2128, .spelled [0x7A]⟩, ⟨0x212A, 0x212A, .spelled [0x6B]⟩,
  ⟨0x212B, 0x212D, .moved 0x61⟩, ⟨0x212F, 0x2130, .spelled [0x65]⟩,
  ⟨0x2131, 0x2131, .spelled [0x66]⟩, ⟨0x2132, 0x2132, .spelled [0x214E]⟩,
  ⟨0x2133, 0x2133, .spelled [0x6D]⟩, ⟨0x2134, 0x2134, .spelled [0x6F]⟩,
  ⟨0x2135, 0x2138, .moved 0x5D0⟩, ⟨0x2139, 0x2139, .spelled [0x69]⟩,
  ⟨0x213B, 0x213B, .spelled [0x66, 0x61, 0x78]⟩, ⟨0x213C, 0x213C, .spelled [0x3C0]⟩,
  ⟨0x213D, 0x213E, .spelled [0x3B3]⟩, ⟨0x213F, 0x213F, .spelled [0x3C0]⟩,
  ⟨0x2140, 0x2140, .spelled [0x2211]⟩, ⟨0x2145, 0x2146, .spelled [0x64]⟩,
  ⟨0x2147, 0x2147, .spelled [0x65]⟩, ⟨0x2148, 0x2149, .moved 0x69⟩,
  ⟨0x2150, 0x2150, .spelled [0x31, 0x2044, 0x37]⟩, ⟨0x2151, 0x2151, .spelled [0x31, 0x2044, 0x39]⟩,
  ⟨0x2152, 0x2152, .spelled [0x31, 0x2044, 0x31, 0x30]⟩,
  ⟨0x2153, 0x2153, .spelled [0x31, 0x2044, 0x33]⟩, ⟨0x2154, 0x2154, .spelled [0x32, 0x2044, 0x33]⟩,
  ⟨0x2155, 0x2155, .spelled [0x31, 0x2044, 0x35]⟩, ⟨0x2156, 0x2156, .spelled [0x32, 0x2044, 0x35]⟩,
  ⟨0x2157, 0x2157, .spelled [0x33, 0x2044, 0x35]⟩, ⟨0x2158, 0x2158, .spelled [0x34, 0x2044, 0x35]⟩,
  ⟨0x2159, 0x2159, .spelled [0x31, 0x2044, 0x36]⟩, ⟨0x215A, 0x215A, .spelled [0x35, 0x2044, 0x36]⟩,
  ⟨0x215B, 0x215B, .spelled [0x31, 0x2044, 0x38]⟩, ⟨0x215C, 0x215C, .spelled [0x33, 0x2044, 0x38]⟩,
  ⟨0x215D, 0x215D, .spelled [0x35, 0x2044, 0x38]⟩, ⟨0x215E, 0x215E, .spelled [0x37, 0x2044, 0x38]⟩,
  ⟨0x215F, 0x215F, .spelled [0x31, 0x2044]⟩, ⟨0x2160, 0x2160, .spelled [0x69]⟩,
  ⟨0x2161, 0x2161, .spelled [0x69, 0x69]⟩, ⟨0x2162, 0x2162, .spelled [0x69, 0x69, 0x69]⟩,
  ⟨0x2163, 0x2163, .spelled [0x69, 0x76]⟩, ⟨0x2164, 0x2164, .spelled [0x76]⟩,
  ⟨0x2165, 0x2165, .spelled [0x76, 0x69]⟩, ⟨0x2166, 0x2166, .spelled [0x76, 0x69, 0x69]⟩,
  ⟨0x2167, 0x2167, .spelled [0x76, 0x69, 0x69, 0x69]⟩, ⟨0x2168, 0x2168, .spelled [0x69, 0x78]⟩,
  ⟨0x2169, 0x2169, .spelled [0x78]⟩, ⟨0x216A, 0x216A, .spelled [0x78, 0x69]⟩,
  ⟨0x216B, 0x216B, .spelled [0x78, 0x69, 0x69]⟩, ⟨0x216C, 0x216C, .spelled [0x6C]⟩,
  ⟨0x216D, 0x216E, .moved 0x63⟩, ⟨0x216F, 0x216F, .spelled [0x6D]⟩,
  ⟨0x2170, 0x2170, .spelled [0x69]⟩, ⟨0x2171, 0x2171, .spelled [0x69, 0x69]⟩,
  ⟨0x2172, 0x2172, .spelled [0x69, 0x69, 0x69]⟩, ⟨0x2173, 0x2173, .spelled [0x69, 0x76]⟩,
  ⟨0x2174, 0x2174, .spelled [0x76]⟩, ⟨0x2175, 0x2175, .spelled [0x76, 0x69]⟩,
  ⟨0x2176, 0x2176, .spelled [0x76, 0x69, 0x69]⟩,
  ⟨0x2177, 0x2177, .spelled [0x76, 0x69, 0x69, 0x69]⟩, ⟨0x2178, 0x2178, .spelled [0x69, 0x78]⟩,
  ⟨0x2179, 0x2179, .spelled [0x78]⟩, ⟨0x217A, 0x217A, .spelled [0x78, 0x69]⟩,
  ⟨0x217B, 0x217B, .spelled [0x78, 0x69, 0x69]⟩, ⟨0x217C, 0x217C, .spelled [0x6C]⟩,
  ⟨0x217D, 0x217E, .moved 0x63⟩, ⟨0x217F, 0x217F, .spelled [0x6D]⟩,
  ⟨0x2183, 0x2183, .spelled [0x2184]⟩, ⟨0x2189, 0x2189, .spelled [0x30, 0x2044, 0x33]⟩,
  ⟨0x219A, 0x219A, .spelled [0x2190]⟩, ⟨0x219B, 0x219B, .spelled [0x2192]⟩,
  ⟨0x21AE, 0x21AE, .spelled [0x2194]⟩, ⟨0x21CD, 0x21CD, .spelled [0x21D0]⟩,
  ⟨0x21CE, 0x21CE, .spelled [0x21D4]⟩, ⟨0x21CF, 0x21CF, .spelled [0x21D2]⟩,
  ⟨0x2204, 0x2204, .spelled [0x2203]⟩, ⟨0x2209, 0x2209, .spelled [0x2208]⟩,
  ⟨0x220C, 0x220C, .spelled [0x220B]⟩, ⟨0x2224, 0x2224, .spelled [0x2223]⟩,
  ⟨0x2226, 0x2226, .spelled [0x2225]⟩, ⟨0x222C, 0x222C, .spelled [0x222B, 0x222B]⟩,
  ⟨0x222D, 0x222D, .spelled [0x222B, 0x222B, 0x222B]⟩, ⟨0x222F, 0x222F, .spelled [0x222E, 0x222E]⟩,
  ⟨0x2230, 0x2230, .spelled [0x222E, 0x222E, 0x222E]⟩, ⟨0x2241, 0x2241, .spelled [0x223C]⟩,
  ⟨0x2244, 0x2244, .spelled [0x2243]⟩, ⟨0x2247, 0x2247, .spelled [0x2245]⟩,
  ⟨0x2249, 0x2249, .spelled [0x2248]⟩, ⟨0x2260, 0x2260, .spelled [0x3D]⟩,
  ⟨0x2262, 0x2262, .spelled [0x2261]⟩, ⟨0x226D, 0x226D, .spelled [0x224D]⟩,
  ⟨0x226E, 0x226E, .spelled [0x3C]⟩, ⟨0x226F, 0x226F, .spelled [0x3E]⟩,
  ⟨0x2270, 0x2271, .moved 0x2264⟩, ⟨0x2274, 0x2275, .moved 0x2272⟩, ⟨0x2278, 0x2279, .moved 0x2276⟩,
  ⟨0x2280, 0x2281, .moved 0x227A⟩, ⟨0x2284, 0x2285, .moved 0x2282⟩, ⟨0x2288, 0x2289, .moved 0x2286⟩,
  ⟨0x22AC, 0x22AC, .spelled [0x22A2]⟩, ⟨0x22AD, 0x22AE, .moved 0x22A8⟩,
  ⟨0x22AF, 0x22AF, .spelled [0x22AB]⟩, ⟨0x22E0, 0x22E1, .moved 0x227C⟩,
  ⟨0x22E2, 0x22E3, .moved 0x2291⟩, ⟨0x22EA, 0x22ED, .moved 0x22B2⟩, ⟨0x2329, 0x232A, .moved 0x3008⟩,
  ⟨0x2460, 0x2468, .moved 0x31⟩, ⟨0x2469, 0x2469, .spelled [0x31, 0x30]⟩,
  ⟨0x246A, 0x246A, .spelled [0x31, 0x31]⟩, ⟨0x246B, 0x246B, .spelled [0x31, 0x32]⟩,
  ⟨0x246C, 0x246C, .spelled [0x31, 0x33]⟩, ⟨0x246D, 0x246D, .spelled [0x31, 0x34]⟩,
  ⟨0x246E, 0x246E, .spelled [0x31, 0x35]⟩, ⟨0x246F, 0x246F, .spelled [0x31, 0x36]⟩,
  ⟨0x2470, 0x2470, .spelled [0x31, 0x37]⟩, ⟨0x2471, 0x2471, .spelled [0x31, 0x38]⟩,
  ⟨0x2472, 0x2472, .spelled [0x31, 0x39]⟩, ⟨0x2473, 0x2473, .spelled [0x32, 0x30]⟩,
  ⟨0x2474, 0x2474, .spelled [0x28, 0x31, 0x29]⟩, ⟨0x2475, 0x2475, .spelled [0x28, 0x32, 0x29]⟩,
  ⟨0x2476, 0x2476, .spelled [0x28, 0x33, 0x29]⟩, ⟨0x2477, 0x2477, .spelled [0x28, 0x34, 0x29]⟩,
  ⟨0x2478, 0x2478, .spelled [0x28, 0x35, 0x29]⟩, ⟨0x2479, 0x2479, .spelled [0x28, 0x36, 0x29]⟩,
  ⟨0x247A, 0x247A, .spelled [0x28, 0x37, 0x29]⟩, ⟨0x247B, 0x247B, .spelled [0x28, 0x38, 0x29]⟩,
  ⟨0x247C, 0x247C, .spelled [0x28, 0x39, 0x29]⟩,
  ⟨0x247D, 0x247D, .spelled [0x28, 0x31, 0x30, 0x29]⟩,
  ⟨0x247E, 0x247E, .spelled [0x28, 0x31, 0x31, 0x29]⟩,
  ⟨0x247F, 0x247F, .spelled [0x28, 0x31, 0x32, 0x29]⟩,
  ⟨0x2480, 0x2480, .spelled [0x28, 0x31, 0x33, 0x29]⟩,
  ⟨0x2481, 0x2481, .spelled [0x28, 0x31, 0x34, 0x29]⟩,
  ⟨0x2482, 0x2482, .spelled [0x28, 0x31, 0x35, 0x29]⟩,
  ⟨0x2483, 0x2483, .spelled [0x28, 0x31, 0x36, 0x29]⟩,
  ⟨0x2484, 0x2484, .spelled [0x28, 0x31, 0x37, 0x29]⟩,
  ⟨0x2485, 0x2485, .spelled [0x28, 0x31, 0x38, 0x29]⟩,
  ⟨0x2486, 0x2486, .spelled [0x28, 0x31, 0x39, 0x29]⟩,
  ⟨0x2487, 0x2487, .spelled [0x28, 0x32, 0x30, 0x29]⟩, ⟨0x2488, 0x2488, .spelled [0x31, 0x2E]⟩,
  ⟨0x2489, 0x2489, .spelled [0x32, 0x2E]⟩, ⟨0x248A, 0x248A, .spelled [0x33, 0x2E]⟩,
  ⟨0x248B, 0x248B, .spelled [0x34, 0x2E]⟩, ⟨0x248C, 0x248C, .spelled [0x35, 0x2E]⟩,
  ⟨0x248D, 0x248D, .spelled [0x36, 0x2E]⟩, ⟨0x248E, 0x248E, .spelled [0x37, 0x2E]⟩,
  ⟨0x248F, 0x248F, .spelled [0x38, 0x2E]⟩, ⟨0x2490, 0x2490, .spelled [0x39, 0x2E]⟩,
  ⟨0x2491, 0x2491, .spelled [0x31, 0x30, 0x2E]⟩, ⟨0x2492, 0x2492, .spelled [0x31, 0x31, 0x2E]⟩,
  ⟨0x2493, 0x2493, .spelled [0x31, 0x32, 0x2E]⟩, ⟨0x2494, 0x2494, .spelled [0x31, 0x33, 0x2E]⟩,
  ⟨0x2495, 0x2495, .spelled [0x31, 0x34, 0x2E]⟩, ⟨0x2496, 0x2496, .spelled [0x31, 0x35, 0x2E]⟩,
  ⟨0x2497, 0x2497, .spelled [0x31, 0x36, 0x2E]⟩, ⟨0x2498, 0x2498, .spelled [0x31, 0x37, 0x2E]⟩,
  ⟨0x2499, 0x2499, .spelled [0x31, 0x38, 0x2E]⟩, ⟨0x249A, 0x249A, .spelled [0x31, 0x39, 0x2E]⟩,
  ⟨0x249B, 0x249B, .spelled [0x32, 0x30, 0x2E]⟩, ⟨0x249C, 0x249C, .spelled [0x28, 0x61, 0x29]⟩,
  ⟨0x249D, 0x249D, .spelled [0x28, 0x62, 0x29]⟩, ⟨0x249E, 0x249E, .spelled [0x28, 0x63, 0x29]⟩,
  ⟨0x249F, 0x249F, .spelled [0x28, 0x64, 0x29]⟩, ⟨0x24A0, 0x24A0, .spelled [0x28, 0x65, 0x29]⟩,
  ⟨0x24A1, 0x24A1, .spelled [0x28, 0x66, 0x29]⟩, ⟨0x24A2, 0x24A2, .spelled [0x28, 0x67, 0x29]⟩,
  ⟨0x24A3, 0x24A3, .spelled [0x28, 0x68, 0x29]⟩, ⟨0x24A4, 0x24A4, .spelled [0x28, 0x69, 0x29]⟩,
  ⟨0x24A5, 0x24A5, .spelled [0x28, 0x6A, 0x29]⟩, ⟨0x24A6, 0x24A6, .spelled [0x28, 0x6B, 0x29]⟩,
  ⟨0x24A7, 0x24A7, .spelled [0x28, 0x6C, 0x29]⟩, ⟨0x24A8, 0x24A8, .spelled [0x28, 0x6D, 0x29]⟩,
  ⟨0x24A9, 0x24A9, .spelled [0x28, 0x6E, 0x29]⟩, ⟨0x24AA, 0x24AA, .spelled [0x28, 0x6F, 0x29]⟩,
  ⟨0x24AB, 0x24AB, .spelled [0x28, 0x70, 0x29]⟩, ⟨0x24AC, 0x24AC, .spelled [0x28, 0x71, 0x29]⟩,
  ⟨0x24AD, 0x24AD, .spelled [0x28, 0x72, 0x29]⟩, ⟨0x24AE, 0x24AE, .spelled [0x28, 0x73, 0x29]⟩,
  ⟨0x24AF, 0x24AF, .spelled [0x28, 0x74, 0x29]⟩, ⟨0x24B0, 0x24B0, .spelled [0x28, 0x75, 0x29]⟩,
  ⟨0x24B1, 0x24B1, .spelled [0x28, 0x76, 0x29]⟩, ⟨0x24B2, 0x24B2, .spelled [0x28, 0x77, 0x29]⟩,
  ⟨0x24B3, 0x24B3, .spelled [0x28, 0x78, 0x29]⟩, ⟨0x24B4, 0x24B4, .spelled [0x28, 0x79, 0x29]⟩,
  ⟨0x24B5, 0x24B5, .spelled [0x28, 0x7A, 0x29]⟩, ⟨0x24B6, 0x24CF, .moved 0x61⟩,
  ⟨0x24D0, 0x24E9, .moved 0x61⟩, ⟨0x24EA, 0x24EA, .spelled [0x30]⟩,
  ⟨0x2A0C, 0x2A0C, .spelled [0x222B, 0x222B, 0x222B, 0x222B]⟩,
  ⟨0x2A74, 0x2A74, .spelled [0x3A, 0x3A, 0x3D]⟩, ⟨0x2A75, 0x2A75, .spelled [0x3D, 0x3D]⟩,
  ⟨0x2A76, 0x2A76, .spelled [0x3D, 0x3D, 0x3D]⟩, ⟨0x2ADC, 0x2ADC, .spelled [0x2ADD]⟩,
  ⟨0x2C00, 0x2C2F, .moved 0x2C30⟩, ⟨0x2C60, 0x2C60, .spelled [0x2C61]⟩,
  ⟨0x2C62, 0x2C62, .spelled [0x26B]⟩]

private def symbolsRows2 : List (CodeRange Folding) := [
  ⟨0x2C63, 0x2C63, .spelled [0x1D7D]⟩, ⟨0x2C64, 0x2C64, .spelled [0x27D]⟩,
  ⟨0x2C67, 0x2C67, .spelled [0x2C68]⟩, ⟨0x2C69, 0x2C69, .spelled [0x2C6A]⟩,
  ⟨0x2C6B, 0x2C6B, .spelled [0x2C6C]⟩, ⟨0x2C6D, 0x2C6D, .spelled [0x251]⟩,
  ⟨0x2C6E, 0x2C6E, .spelled [0x271]⟩, ⟨0x2C6F, 0x2C6F, .spelled [0x250]⟩,
  ⟨0x2C70, 0x2C70, .spelled [0x252]⟩, ⟨0x2C72, 0x2C72, .spelled [0x2C73]⟩,
  ⟨0x2C75, 0x2C75, .spelled [0x2C76]⟩, ⟨0x2C7C, 0x2C7C, .spelled [0x6A]⟩,
  ⟨0x2C7D, 0x2C7D, .spelled [0x76]⟩, ⟨0x2C7E, 0x2C7F, .moved 0x23F⟩,
  ⟨0x2C80, 0x2C80, .spelled [0x2C81]⟩, ⟨0x2C82, 0x2C82, .spelled [0x2C83]⟩,
  ⟨0x2C84, 0x2C84, .spelled [0x2C85]⟩, ⟨0x2C86, 0x2C86, .spelled [0x2C87]⟩,
  ⟨0x2C88, 0x2C88, .spelled [0x2C89]⟩, ⟨0x2C8A, 0x2C8A, .spelled [0x2C8B]⟩,
  ⟨0x2C8C, 0x2C8C, .spelled [0x2C8D]⟩, ⟨0x2C8E, 0x2C8E, .spelled [0x2C8F]⟩,
  ⟨0x2C90, 0x2C90, .spelled [0x2C91]⟩, ⟨0x2C92, 0x2C92, .spelled [0x2C93]⟩,
  ⟨0x2C94, 0x2C94, .spelled [0x2C95]⟩, ⟨0x2C96, 0x2C96, .spelled [0x2C97]⟩,
  ⟨0x2C98, 0x2C98, .spelled [0x2C99]⟩, ⟨0x2C9A, 0x2C9A, .spelled [0x2C9B]⟩,
  ⟨0x2C9C, 0x2C9C, .spelled [0x2C9D]⟩, ⟨0x2C9E, 0x2C9E, .spelled [0x2C9F]⟩,
  ⟨0x2CA0, 0x2CA0, .spelled [0x2CA1]⟩, ⟨0x2CA2, 0x2CA2, .spelled [0x2CA3]⟩,
  ⟨0x2CA4, 0x2CA4, .spelled [0x2CA5]⟩, ⟨0x2CA6, 0x2CA6, .spelled [0x2CA7]⟩,
  ⟨0x2CA8, 0x2CA8, .spelled [0x2CA9]⟩, ⟨0x2CAA, 0x2CAA, .spelled [0x2CAB]⟩,
  ⟨0x2CAC, 0x2CAC, .spelled [0x2CAD]⟩, ⟨0x2CAE, 0x2CAE, .spelled [0x2CAF]⟩,
  ⟨0x2CB0, 0x2CB0, .spelled [0x2CB1]⟩, ⟨0x2CB2, 0x2CB2, .spelled [0x2CB3]⟩,
  ⟨0x2CB4, 0x2CB4, .spelled [0x2CB5]⟩, ⟨0x2CB6, 0x2CB6, .spelled [0x2CB7]⟩,
  ⟨0x2CB8, 0x2CB8, .spelled [0x2CB9]⟩, ⟨0x2CBA, 0x2CBA, .spelled [0x2CBB]⟩,
  ⟨0x2CBC, 0x2CBC, .spelled [0x2CBD]⟩, ⟨0x2CBE, 0x2CBE, .spelled [0x2CBF]⟩,
  ⟨0x2CC0, 0x2CC0, .spelled [0x2CC1]⟩, ⟨0x2CC2, 0x2CC2, .spelled [0x2CC3]⟩,
  ⟨0x2CC4, 0x2CC4, .spelled [0x2CC5]⟩, ⟨0x2CC6, 0x2CC6, .spelled [0x2CC7]⟩,
  ⟨0x2CC8, 0x2CC8, .spelled [0x2CC9]⟩, ⟨0x2CCA, 0x2CCA, .spelled [0x2CCB]⟩,
  ⟨0x2CCC, 0x2CCC, .spelled [0x2CCD]⟩, ⟨0x2CCE, 0x2CCE, .spelled [0x2CCF]⟩,
  ⟨0x2CD0, 0x2CD0, .spelled [0x2CD1]⟩, ⟨0x2CD2, 0x2CD2, .spelled [0x2CD3]⟩,
  ⟨0x2CD4, 0x2CD4, .spelled [0x2CD5]⟩, ⟨0x2CD6, 0x2CD6, .spelled [0x2CD7]⟩,
  ⟨0x2CD8, 0x2CD8, .spelled [0x2CD9]⟩, ⟨0x2CDA, 0x2CDA, .spelled [0x2CDB]⟩,
  ⟨0x2CDC, 0x2CDC, .spelled [0x2CDD]⟩, ⟨0x2CDE, 0x2CDE, .spelled [0x2CDF]⟩,
  ⟨0x2CE0, 0x2CE0, .spelled [0x2CE1]⟩, ⟨0x2CE2, 0x2CE2, .spelled [0x2CE3]⟩,
  ⟨0x2CEB, 0x2CEB, .spelled [0x2CEC]⟩, ⟨0x2CED, 0x2CED, .spelled [0x2CEE]⟩,
  ⟨0x2CEF, 0x2CF1, .spelled []⟩, ⟨0x2CF2, 0x2CF2, .spelled [0x2CF3]⟩,
  ⟨0x2D6F, 0x2D6F, .spelled [0x2D61]⟩, ⟨0x2D7F, 0x2D7F, .spelled []⟩, ⟨0x2DE0, 0x2DFF, .spelled []⟩]

def symbols : List (CodeRange Folding) :=
  symbolsRows1 ++ symbolsRows2

end TenantSearch.Text.Folding
