import TenantSearch.Text.Fold.Rule

/-! Folded forms of Unicode 17.0: radicals, Japanese and Korean forms, squared words, and the
scripts after Yi. A character without a row stands for itself. -/
namespace TenantSearch.Text.Folding

private def eastAsianRows1 : List (CodeRange Folding) := [
  ⟨0x2E9F, 0x2E9F, .spelled [0x6BCD]⟩, ⟨0x2EF3, 0x2EF3, .spelled [0x9F9F]⟩,
  ⟨0x2F00, 0x2F00, .spelled [0x4E00]⟩, ⟨0x2F01, 0x2F01, .spelled [0x4E28]⟩,
  ⟨0x2F02, 0x2F02, .spelled [0x4E36]⟩, ⟨0x2F03, 0x2F03, .spelled [0x4E3F]⟩,
  ⟨0x2F04, 0x2F04, .spelled [0x4E59]⟩, ⟨0x2F05, 0x2F05, .spelled [0x4E85]⟩,
  ⟨0x2F06, 0x2F06, .spelled [0x4E8C]⟩, ⟨0x2F07, 0x2F07, .spelled [0x4EA0]⟩,
  ⟨0x2F08, 0x2F08, .spelled [0x4EBA]⟩, ⟨0x2F09, 0x2F09, .spelled [0x513F]⟩,
  ⟨0x2F0A, 0x2F0A, .spelled [0x5165]⟩, ⟨0x2F0B, 0x2F0B, .spelled [0x516B]⟩,
  ⟨0x2F0C, 0x2F0C, .spelled [0x5182]⟩, ⟨0x2F0D, 0x2F0D, .spelled [0x5196]⟩,
  ⟨0x2F0E, 0x2F0E, .spelled [0x51AB]⟩, ⟨0x2F0F, 0x2F0F, .spelled [0x51E0]⟩,
  ⟨0x2F10, 0x2F10, .spelled [0x51F5]⟩, ⟨0x2F11, 0x2F11, .spelled [0x5200]⟩,
  ⟨0x2F12, 0x2F12, .spelled [0x529B]⟩, ⟨0x2F13, 0x2F13, .spelled [0x52F9]⟩,
  ⟨0x2F14, 0x2F14, .spelled [0x5315]⟩, ⟨0x2F15, 0x2F15, .spelled [0x531A]⟩,
  ⟨0x2F16, 0x2F16, .spelled [0x5338]⟩, ⟨0x2F17, 0x2F17, .spelled [0x5341]⟩,
  ⟨0x2F18, 0x2F18, .spelled [0x535C]⟩, ⟨0x2F19, 0x2F19, .spelled [0x5369]⟩,
  ⟨0x2F1A, 0x2F1A, .spelled [0x5382]⟩, ⟨0x2F1B, 0x2F1B, .spelled [0x53B6]⟩,
  ⟨0x2F1C, 0x2F1C, .spelled [0x53C8]⟩, ⟨0x2F1D, 0x2F1D, .spelled [0x53E3]⟩,
  ⟨0x2F1E, 0x2F1E, .spelled [0x56D7]⟩, ⟨0x2F1F, 0x2F1F, .spelled [0x571F]⟩,
  ⟨0x2F20, 0x2F20, .spelled [0x58EB]⟩, ⟨0x2F21, 0x2F21, .spelled [0x5902]⟩,
  ⟨0x2F22, 0x2F22, .spelled [0x590A]⟩, ⟨0x2F23, 0x2F23, .spelled [0x5915]⟩,
  ⟨0x2F24, 0x2F24, .spelled [0x5927]⟩, ⟨0x2F25, 0x2F25, .spelled [0x5973]⟩,
  ⟨0x2F26, 0x2F26, .spelled [0x5B50]⟩, ⟨0x2F27, 0x2F27, .spelled [0x5B80]⟩,
  ⟨0x2F28, 0x2F28, .spelled [0x5BF8]⟩, ⟨0x2F29, 0x2F29, .spelled [0x5C0F]⟩,
  ⟨0x2F2A, 0x2F2A, .spelled [0x5C22]⟩, ⟨0x2F2B, 0x2F2B, .spelled [0x5C38]⟩,
  ⟨0x2F2C, 0x2F2C, .spelled [0x5C6E]⟩, ⟨0x2F2D, 0x2F2D, .spelled [0x5C71]⟩,
  ⟨0x2F2E, 0x2F2E, .spelled [0x5DDB]⟩, ⟨0x2F2F, 0x2F2F, .spelled [0x5DE5]⟩,
  ⟨0x2F30, 0x2F30, .spelled [0x5DF1]⟩, ⟨0x2F31, 0x2F31, .spelled [0x5DFE]⟩,
  ⟨0x2F32, 0x2F32, .spelled [0x5E72]⟩, ⟨0x2F33, 0x2F33, .spelled [0x5E7A]⟩,
  ⟨0x2F34, 0x2F34, .spelled [0x5E7F]⟩, ⟨0x2F35, 0x2F35, .spelled [0x5EF4]⟩,
  ⟨0x2F36, 0x2F36, .spelled [0x5EFE]⟩, ⟨0x2F37, 0x2F37, .spelled [0x5F0B]⟩,
  ⟨0x2F38, 0x2F38, .spelled [0x5F13]⟩, ⟨0x2F39, 0x2F39, .spelled [0x5F50]⟩,
  ⟨0x2F3A, 0x2F3A, .spelled [0x5F61]⟩, ⟨0x2F3B, 0x2F3B, .spelled [0x5F73]⟩,
  ⟨0x2F3C, 0x2F3C, .spelled [0x5FC3]⟩, ⟨0x2F3D, 0x2F3D, .spelled [0x6208]⟩,
  ⟨0x2F3E, 0x2F3E, .spelled [0x6236]⟩, ⟨0x2F3F, 0x2F3F, .spelled [0x624B]⟩,
  ⟨0x2F40, 0x2F40, .spelled [0x652F]⟩, ⟨0x2F41, 0x2F41, .spelled [0x6534]⟩,
  ⟨0x2F42, 0x2F42, .spelled [0x6587]⟩, ⟨0x2F43, 0x2F43, .spelled [0x6597]⟩,
  ⟨0x2F44, 0x2F44, .spelled [0x65A4]⟩, ⟨0x2F45, 0x2F45, .spelled [0x65B9]⟩,
  ⟨0x2F46, 0x2F46, .spelled [0x65E0]⟩, ⟨0x2F47, 0x2F47, .spelled [0x65E5]⟩,
  ⟨0x2F48, 0x2F48, .spelled [0x66F0]⟩, ⟨0x2F49, 0x2F49, .spelled [0x6708]⟩,
  ⟨0x2F4A, 0x2F4A, .spelled [0x6728]⟩, ⟨0x2F4B, 0x2F4B, .spelled [0x6B20]⟩,
  ⟨0x2F4C, 0x2F4C, .spelled [0x6B62]⟩, ⟨0x2F4D, 0x2F4D, .spelled [0x6B79]⟩,
  ⟨0x2F4E, 0x2F4E, .spelled [0x6BB3]⟩, ⟨0x2F4F, 0x2F4F, .spelled [0x6BCB]⟩,
  ⟨0x2F50, 0x2F50, .spelled [0x6BD4]⟩, ⟨0x2F51, 0x2F51, .spelled [0x6BDB]⟩,
  ⟨0x2F52, 0x2F52, .spelled [0x6C0F]⟩, ⟨0x2F53, 0x2F53, .spelled [0x6C14]⟩,
  ⟨0x2F54, 0x2F54, .spelled [0x6C34]⟩, ⟨0x2F55, 0x2F55, .spelled [0x706B]⟩,
  ⟨0x2F56, 0x2F56, .spelled [0x722A]⟩, ⟨0x2F57, 0x2F57, .spelled [0x7236]⟩,
  ⟨0x2F58, 0x2F58, .spelled [0x723B]⟩, ⟨0x2F59, 0x2F59, .spelled [0x723F]⟩,
  ⟨0x2F5A, 0x2F5A, .spelled [0x7247]⟩, ⟨0x2F5B, 0x2F5B, .spelled [0x7259]⟩,
  ⟨0x2F5C, 0x2F5C, .spelled [0x725B]⟩, ⟨0x2F5D, 0x2F5D, .spelled [0x72AC]⟩,
  ⟨0x2F5E, 0x2F5E, .spelled [0x7384]⟩, ⟨0x2F5F, 0x2F5F, .spelled [0x7389]⟩,
  ⟨0x2F60, 0x2F60, .spelled [0x74DC]⟩, ⟨0x2F61, 0x2F61, .spelled [0x74E6]⟩,
  ⟨0x2F62, 0x2F62, .spelled [0x7518]⟩, ⟨0x2F63, 0x2F63, .spelled [0x751F]⟩,
  ⟨0x2F64, 0x2F64, .spelled [0x7528]⟩, ⟨0x2F65, 0x2F65, .spelled [0x7530]⟩,
  ⟨0x2F66, 0x2F66, .spelled [0x758B]⟩, ⟨0x2F67, 0x2F67, .spelled [0x7592]⟩,
  ⟨0x2F68, 0x2F68, .spelled [0x7676]⟩, ⟨0x2F69, 0x2F69, .spelled [0x767D]⟩,
  ⟨0x2F6A, 0x2F6A, .spelled [0x76AE]⟩, ⟨0x2F6B, 0x2F6B, .spelled [0x76BF]⟩,
  ⟨0x2F6C, 0x2F6C, .spelled [0x76EE]⟩, ⟨0x2F6D, 0x2F6D, .spelled [0x77DB]⟩,
  ⟨0x2F6E, 0x2F6E, .spelled [0x77E2]⟩, ⟨0x2F6F, 0x2F6F, .spelled [0x77F3]⟩,
  ⟨0x2F70, 0x2F70, .spelled [0x793A]⟩, ⟨0x2F71, 0x2F71, .spelled [0x79B8]⟩,
  ⟨0x2F72, 0x2F72, .spelled [0x79BE]⟩, ⟨0x2F73, 0x2F73, .spelled [0x7A74]⟩,
  ⟨0x2F74, 0x2F74, .spelled [0x7ACB]⟩, ⟨0x2F75, 0x2F75, .spelled [0x7AF9]⟩,
  ⟨0x2F76, 0x2F76, .spelled [0x7C73]⟩, ⟨0x2F77, 0x2F77, .spelled [0x7CF8]⟩,
  ⟨0x2F78, 0x2F78, .spelled [0x7F36]⟩, ⟨0x2F79, 0x2F79, .spelled [0x7F51]⟩,
  ⟨0x2F7A, 0x2F7A, .spelled [0x7F8A]⟩, ⟨0x2F7B, 0x2F7B, .spelled [0x7FBD]⟩,
  ⟨0x2F7C, 0x2F7C, .spelled [0x8001]⟩, ⟨0x2F7D, 0x2F7D, .spelled [0x800C]⟩,
  ⟨0x2F7E, 0x2F7E, .spelled [0x8012]⟩, ⟨0x2F7F, 0x2F7F, .spelled [0x8033]⟩,
  ⟨0x2F80, 0x2F80, .spelled [0x807F]⟩, ⟨0x2F81, 0x2F81, .spelled [0x8089]⟩,
  ⟨0x2F82, 0x2F82, .spelled [0x81E3]⟩, ⟨0x2F83, 0x2F83, .spelled [0x81EA]⟩,
  ⟨0x2F84, 0x2F84, .spelled [0x81F3]⟩, ⟨0x2F85, 0x2F85, .spelled [0x81FC]⟩,
  ⟨0x2F86, 0x2F86, .spelled [0x820C]⟩, ⟨0x2F87, 0x2F87, .spelled [0x821B]⟩,
  ⟨0x2F88, 0x2F88, .spelled [0x821F]⟩, ⟨0x2F89, 0x2F89, .spelled [0x826E]⟩,
  ⟨0x2F8A, 0x2F8A, .spelled [0x8272]⟩, ⟨0x2F8B, 0x2F8B, .spelled [0x8278]⟩,
  ⟨0x2F8C, 0x2F8C, .spelled [0x864D]⟩, ⟨0x2F8D, 0x2F8D, .spelled [0x866B]⟩,
  ⟨0x2F8E, 0x2F8E, .spelled [0x8840]⟩, ⟨0x2F8F, 0x2F8F, .spelled [0x884C]⟩,
  ⟨0x2F90, 0x2F90, .spelled [0x8863]⟩, ⟨0x2F91, 0x2F91, .spelled [0x897E]⟩,
  ⟨0x2F92, 0x2F92, .spelled [0x898B]⟩, ⟨0x2F93, 0x2F93, .spelled [0x89D2]⟩,
  ⟨0x2F94, 0x2F94, .spelled [0x8A00]⟩, ⟨0x2F95, 0x2F95, .spelled [0x8C37]⟩,
  ⟨0x2F96, 0x2F96, .spelled [0x8C46]⟩, ⟨0x2F97, 0x2F97, .spelled [0x8C55]⟩,
  ⟨0x2F98, 0x2F98, .spelled [0x8C78]⟩, ⟨0x2F99, 0x2F99, .spelled [0x8C9D]⟩,
  ⟨0x2F9A, 0x2F9A, .spelled [0x8D64]⟩, ⟨0x2F9B, 0x2F9B, .spelled [0x8D70]⟩,
  ⟨0x2F9C, 0x2F9C, .spelled [0x8DB3]⟩, ⟨0x2F9D, 0x2F9D, .spelled [0x8EAB]⟩,
  ⟨0x2F9E, 0x2F9E, .spelled [0x8ECA]⟩, ⟨0x2F9F, 0x2F9F, .spelled [0x8F9B]⟩,
  ⟨0x2FA0, 0x2FA0, .spelled [0x8FB0]⟩, ⟨0x2FA1, 0x2FA1, .spelled [0x8FB5]⟩,
  ⟨0x2FA2, 0x2FA2, .spelled [0x9091]⟩, ⟨0x2FA3, 0x2FA3, .spelled [0x9149]⟩,
  ⟨0x2FA4, 0x2FA4, .spelled [0x91C6]⟩, ⟨0x2FA5, 0x2FA5, .spelled [0x91CC]⟩,
  ⟨0x2FA6, 0x2FA6, .spelled [0x91D1]⟩, ⟨0x2FA7, 0x2FA7, .spelled [0x9577]⟩,
  ⟨0x2FA8, 0x2FA8, .spelled [0x9580]⟩, ⟨0x2FA9, 0x2FA9, .spelled [0x961C]⟩,
  ⟨0x2FAA, 0x2FAA, .spelled [0x96B6]⟩, ⟨0x2FAB, 0x2FAB, .spelled [0x96B9]⟩,
  ⟨0x2FAC, 0x2FAC, .spelled [0x96E8]⟩, ⟨0x2FAD, 0x2FAD, .spelled [0x9751]⟩,
  ⟨0x2FAE, 0x2FAE, .spelled [0x975E]⟩, ⟨0x2FAF, 0x2FAF, .spelled [0x9762]⟩,
  ⟨0x2FB0, 0x2FB0, .spelled [0x9769]⟩, ⟨0x2FB1, 0x2FB1, .spelled [0x97CB]⟩,
  ⟨0x2FB2, 0x2FB2, .spelled [0x97ED]⟩, ⟨0x2FB3, 0x2FB3, .spelled [0x97F3]⟩,
  ⟨0x2FB4, 0x2FB4, .spelled [0x9801]⟩, ⟨0x2FB5, 0x2FB5, .spelled [0x98A8]⟩,
  ⟨0x2FB6, 0x2FB6, .spelled [0x98DB]⟩, ⟨0x2FB7, 0x2FB7, .spelled [0x98DF]⟩,
  ⟨0x2FB8, 0x2FB8, .spelled [0x9996]⟩, ⟨0x2FB9, 0x2FB9, .spelled [0x9999]⟩,
  ⟨0x2FBA, 0x2FBA, .spelled [0x99AC]⟩, ⟨0x2FBB, 0x2FBB, .spelled [0x9AA8]⟩,
  ⟨0x2FBC, 0x2FBC, .spelled [0x9AD8]⟩, ⟨0x2FBD, 0x2FBD, .spelled [0x9ADF]⟩,
  ⟨0x2FBE, 0x2FBE, .spelled [0x9B25]⟩, ⟨0x2FBF, 0x2FBF, .spelled [0x9B2F]⟩,
  ⟨0x2FC0, 0x2FC0, .spelled [0x9B32]⟩, ⟨0x2FC1, 0x2FC1, .spelled [0x9B3C]⟩,
  ⟨0x2FC2, 0x2FC2, .spelled [0x9B5A]⟩, ⟨0x2FC3, 0x2FC3, .spelled [0x9CE5]⟩,
  ⟨0x2FC4, 0x2FC4, .spelled [0x9E75]⟩, ⟨0x2FC5, 0x2FC5, .spelled [0x9E7F]⟩,
  ⟨0x2FC6, 0x2FC6, .spelled [0x9EA5]⟩, ⟨0x2FC7, 0x2FC7, .spelled [0x9EBB]⟩,
  ⟨0x2FC8, 0x2FC8, .spelled [0x9EC3]⟩, ⟨0x2FC9, 0x2FC9, .spelled [0x9ECD]⟩,
  ⟨0x2FCA, 0x2FCA, .spelled [0x9ED1]⟩, ⟨0x2FCB, 0x2FCB, .spelled [0x9EF9]⟩,
  ⟨0x2FCC, 0x2FCC, .spelled [0x9EFD]⟩, ⟨0x2FCD, 0x2FCD, .spelled [0x9F0E]⟩,
  ⟨0x2FCE, 0x2FCE, .spelled [0x9F13]⟩, ⟨0x2FCF, 0x2FCF, .spelled [0x9F20]⟩,
  ⟨0x2FD0, 0x2FD0, .spelled [0x9F3B]⟩, ⟨0x2FD1, 0x2FD1, .spelled [0x9F4A]⟩,
  ⟨0x2FD2, 0x2FD2, .spelled [0x9F52]⟩, ⟨0x2FD3, 0x2FD3, .spelled [0x9F8D]⟩,
  ⟨0x2FD4, 0x2FD4, .spelled [0x9F9C]⟩, ⟨0x2FD5, 0x2FD5, .spelled [0x9FA0]⟩,
  ⟨0x3000, 0x3000, .spelled [0x20]⟩, ⟨0x302A, 0x302F, .spelled []⟩,
  ⟨0x3036, 0x3036, .spelled [0x3012]⟩, ⟨0x3038, 0x3038, .spelled [0x5341]⟩,
  ⟨0x3039, 0x303A, .moved 0x5344⟩, ⟨0x304C, 0x304C, .spelled [0x304B]⟩,
  ⟨0x304E, 0x304E, .spelled [0x304D]⟩, ⟨0x3050, 0x3050, .spelled [0x304F]⟩,
  ⟨0x3052, 0x3052, .spelled [0x3051]⟩, ⟨0x3054, 0x3054, .spelled [0x3053]⟩,
  ⟨0x3056, 0x3056, .spelled [0x3055]⟩, ⟨0x3058, 0x3058, .spelled [0x3057]⟩,
  ⟨0x305A, 0x305A, .spelled [0x3059]⟩, ⟨0x305C, 0x305C, .spelled [0x305B]⟩,
  ⟨0x305E, 0x305E, .spelled [0x305D]⟩, ⟨0x3060, 0x3060, .spelled [0x305F]⟩,
  ⟨0x3062, 0x3062, .spelled [0x3061]⟩, ⟨0x3065, 0x3065, .spelled [0x3064]⟩,
  ⟨0x3067, 0x3067, .spelled [0x3066]⟩, ⟨0x3069, 0x3069, .spelled [0x3068]⟩,
  ⟨0x3070, 0x3071, .spelled [0x306F]⟩, ⟨0x3073, 0x3074, .spelled [0x3072]⟩,
  ⟨0x3076, 0x3077, .spelled [0x3075]⟩, ⟨0x3079, 0x307A, .spelled [0x3078]⟩,
  ⟨0x307C, 0x307D, .spelled [0x307B]⟩, ⟨0x3094, 0x3094, .spelled [0x3046]⟩,
  ⟨0x3099, 0x309A, .spelled []⟩, ⟨0x309B, 0x309C, .spelled [0x20]⟩,
  ⟨0x309E, 0x309E, .spelled [0x309D]⟩, ⟨0x309F, 0x309F, .spelled [0x3088, 0x308A]⟩,
  ⟨0x30AC, 0x30AC, .spelled [0x30AB]⟩, ⟨0x30AE, 0x30AE, .spelled [0x30AD]⟩,
  ⟨0x30B0, 0x30B0, .spelled [0x30AF]⟩, ⟨0x30B2, 0x30B2, .spelled [0x30B1]⟩,
  ⟨0x30B4, 0x30B4, .spelled [0x30B3]⟩, ⟨0x30B6, 0x30B6, .spelled [0x30B5]⟩,
  ⟨0x30B8, 0x30B8, .spelled [0x30B7]⟩, ⟨0x30BA, 0x30BA, .spelled [0x30B9]⟩,
  ⟨0x30BC, 0x30BC, .spelled [0x30BB]⟩, ⟨0x30BE, 0x30BE, .spelled [0x30BD]⟩]

private def eastAsianRows2 : List (CodeRange Folding) := [
  ⟨0x30C0, 0x30C0, .spelled [0x30BF]⟩, ⟨0x30C2, 0x30C2, .spelled [0x30C1]⟩,
  ⟨0x30C5, 0x30C5, .spelled [0x30C4]⟩, ⟨0x30C7, 0x30C7, .spelled [0x30C6]⟩,
  ⟨0x30C9, 0x30C9, .spelled [0x30C8]⟩, ⟨0x30D0, 0x30D1, .spelled [0x30CF]⟩,
  ⟨0x30D3, 0x30D4, .spelled [0x30D2]⟩, ⟨0x30D6, 0x30D7, .spelled [0x30D5]⟩,
  ⟨0x30D9, 0x30DA, .spelled [0x30D8]⟩, ⟨0x30DC, 0x30DD, .spelled [0x30DB]⟩,
  ⟨0x30F4, 0x30F4, .spelled [0x30A6]⟩, ⟨0x30F7, 0x30FA, .moved 0x30EF⟩,
  ⟨0x30FE, 0x30FE, .spelled [0x30FD]⟩, ⟨0x30FF, 0x30FF, .spelled [0x30B3, 0x30C8]⟩,
  ⟨0x3131, 0x3132, .moved 0x1100⟩, ⟨0x3133, 0x3133, .spelled [0x11AA]⟩,
  ⟨0x3134, 0x3134, .spelled [0x1102]⟩, ⟨0x3135, 0x3136, .moved 0x11AC⟩,
  ⟨0x3137, 0x3139, .moved 0x1103⟩, ⟨0x313A, 0x313F, .moved 0x11B0⟩,
  ⟨0x3140, 0x3140, .spelled [0x111A]⟩, ⟨0x3141, 0x3143, .moved 0x1106⟩,
  ⟨0x3144, 0x3144, .spelled [0x1121]⟩, ⟨0x3145, 0x314E, .moved 0x1109⟩,
  ⟨0x314F, 0x3163, .moved 0x1161⟩, ⟨0x3164, 0x3164, .spelled [0x1160]⟩,
  ⟨0x3165, 0x3166, .moved 0x1114⟩, ⟨0x3167, 0x3168, .moved 0x11C7⟩,
  ⟨0x3169, 0x3169, .spelled [0x11CC]⟩, ⟨0x316A, 0x316A, .spelled [0x11CE]⟩,
  ⟨0x316B, 0x316B, .spelled [0x11D3]⟩, ⟨0x316C, 0x316C, .spelled [0x11D7]⟩,
  ⟨0x316D, 0x316D, .spelled [0x11D9]⟩, ⟨0x316E, 0x316E, .spelled [0x111C]⟩,
  ⟨0x316F, 0x316F, .spelled [0x11DD]⟩, ⟨0x3170, 0x3170, .spelled [0x11DF]⟩,
  ⟨0x3171, 0x3172, .moved 0x111D⟩, ⟨0x3173, 0x3173, .spelled [0x1120]⟩,
  ⟨0x3174, 0x3175, .moved 0x1122⟩, ⟨0x3176, 0x3176, .spelled [0x1127]⟩,
  ⟨0x3177, 0x3177, .spelled [0x1129]⟩, ⟨0x3178, 0x317C, .moved 0x112B⟩,
  ⟨0x317D, 0x317D, .spelled [0x1132]⟩, ⟨0x317E, 0x317E, .spelled [0x1136]⟩,
  ⟨0x317F, 0x317F, .spelled [0x1140]⟩, ⟨0x3180, 0x3180, .spelled [0x1147]⟩,
  ⟨0x3181, 0x3181, .spelled [0x114C]⟩, ⟨0x3182, 0x3183, .moved 0x11F1⟩,
  ⟨0x3184, 0x3186, .moved 0x1157⟩, ⟨0x3187, 0x3188, .moved 0x1184⟩,
  ⟨0x3189, 0x3189, .spelled [0x1188]⟩, ⟨0x318A, 0x318B, .moved 0x1191⟩,
  ⟨0x318C, 0x318C, .spelled [0x1194]⟩, ⟨0x318D, 0x318D, .spelled [0x119E]⟩,
  ⟨0x318E, 0x318E, .spelled [0x11A1]⟩, ⟨0x3192, 0x3192, .spelled [0x4E00]⟩,
  ⟨0x3193, 0x3193, .spelled [0x4E8C]⟩, ⟨0x3194, 0x3194, .spelled [0x4E09]⟩,
  ⟨0x3195, 0x3195, .spelled [0x56DB]⟩, ⟨0x3196, 0x3196, .spelled [0x4E0A]⟩,
  ⟨0x3197, 0x3197, .spelled [0x4E2D]⟩, ⟨0x3198, 0x3198, .spelled [0x4E0B]⟩,
  ⟨0x3199, 0x3199, .spelled [0x7532]⟩, ⟨0x319A, 0x319A, .spelled [0x4E59]⟩,
  ⟨0x319B, 0x319B, .spelled [0x4E19]⟩, ⟨0x319C, 0x319C, .spelled [0x4E01]⟩,
  ⟨0x319D, 0x319D, .spelled [0x5929]⟩, ⟨0x319E, 0x319E, .spelled [0x5730]⟩,
  ⟨0x319F, 0x319F, .spelled [0x4EBA]⟩, ⟨0x3200, 0x3200, .spelled [0x28, 0x1100, 0x29]⟩,
  ⟨0x3201, 0x3201, .spelled [0x28, 0x1102, 0x29]⟩, ⟨0x3202, 0x3202, .spelled [0x28, 0x1103, 0x29]⟩,
  ⟨0x3203, 0x3203, .spelled [0x28, 0x1105, 0x29]⟩, ⟨0x3204, 0x3204, .spelled [0x28, 0x1106, 0x29]⟩,
  ⟨0x3205, 0x3205, .spelled [0x28, 0x1107, 0x29]⟩, ⟨0x3206, 0x3206, .spelled [0x28, 0x1109, 0x29]⟩,
  ⟨0x3207, 0x3207, .spelled [0x28, 0x110B, 0x29]⟩, ⟨0x3208, 0x3208, .spelled [0x28, 0x110C, 0x29]⟩,
  ⟨0x3209, 0x3209, .spelled [0x28, 0x110E, 0x29]⟩, ⟨0x320A, 0x320A, .spelled [0x28, 0x110F, 0x29]⟩,
  ⟨0x320B, 0x320B, .spelled [0x28, 0x1110, 0x29]⟩, ⟨0x320C, 0x320C, .spelled [0x28, 0x1111, 0x29]⟩,
  ⟨0x320D, 0x320D, .spelled [0x28, 0x1112, 0x29]⟩,
  ⟨0x320E, 0x320E, .spelled [0x28, 0x1100, 0x1161, 0x29]⟩,
  ⟨0x320F, 0x320F, .spelled [0x28, 0x1102, 0x1161, 0x29]⟩,
  ⟨0x3210, 0x3210, .spelled [0x28, 0x1103, 0x1161, 0x29]⟩,
  ⟨0x3211, 0x3211, .spelled [0x28, 0x1105, 0x1161, 0x29]⟩,
  ⟨0x3212, 0x3212, .spelled [0x28, 0x1106, 0x1161, 0x29]⟩,
  ⟨0x3213, 0x3213, .spelled [0x28, 0x1107, 0x1161, 0x29]⟩,
  ⟨0x3214, 0x3214, .spelled [0x28, 0x1109, 0x1161, 0x29]⟩,
  ⟨0x3215, 0x3215, .spelled [0x28, 0x110B, 0x1161, 0x29]⟩,
  ⟨0x3216, 0x3216, .spelled [0x28, 0x110C, 0x1161, 0x29]⟩,
  ⟨0x3217, 0x3217, .spelled [0x28, 0x110E, 0x1161, 0x29]⟩,
  ⟨0x3218, 0x3218, .spelled [0x28, 0x110F, 0x1161, 0x29]⟩,
  ⟨0x3219, 0x3219, .spelled [0x28, 0x1110, 0x1161, 0x29]⟩,
  ⟨0x321A, 0x321A, .spelled [0x28, 0x1111, 0x1161, 0x29]⟩,
  ⟨0x321B, 0x321B, .spelled [0x28, 0x1112, 0x1161, 0x29]⟩,
  ⟨0x321C, 0x321C, .spelled [0x28, 0x110C, 0x116E, 0x29]⟩,
  ⟨0x321D, 0x321D, .spelled [0x28, 0x110B, 0x1169, 0x110C, 0x1165, 0x11AB, 0x29]⟩,
  ⟨0x321E, 0x321E, .spelled [0x28, 0x110B, 0x1169, 0x1112, 0x116E, 0x29]⟩,
  ⟨0x3220, 0x3220, .spelled [0x28, 0x4E00, 0x29]⟩, ⟨0x3221, 0x3221, .spelled [0x28, 0x4E8C, 0x29]⟩,
  ⟨0x3222, 0x3222, .spelled [0x28, 0x4E09, 0x29]⟩, ⟨0x3223, 0x3223, .spelled [0x28, 0x56DB, 0x29]⟩,
  ⟨0x3224, 0x3224, .spelled [0x28, 0x4E94, 0x29]⟩, ⟨0x3225, 0x3225, .spelled [0x28, 0x516D, 0x29]⟩,
  ⟨0x3226, 0x3226, .spelled [0x28, 0x4E03, 0x29]⟩, ⟨0x3227, 0x3227, .spelled [0x28, 0x516B, 0x29]⟩,
  ⟨0x3228, 0x3228, .spelled [0x28, 0x4E5D, 0x29]⟩, ⟨0x3229, 0x3229, .spelled [0x28, 0x5341, 0x29]⟩,
  ⟨0x322A, 0x322A, .spelled [0x28, 0x6708, 0x29]⟩, ⟨0x322B, 0x322B, .spelled [0x28, 0x706B, 0x29]⟩,
  ⟨0x322C, 0x322C, .spelled [0x28, 0x6C34, 0x29]⟩, ⟨0x322D, 0x322D, .spelled [0x28, 0x6728, 0x29]⟩,
  ⟨0x322E, 0x322E, .spelled [0x28, 0x91D1, 0x29]⟩, ⟨0x322F, 0x322F, .spelled [0x28, 0x571F, 0x29]⟩,
  ⟨0x3230, 0x3230, .spelled [0x28, 0x65E5, 0x29]⟩, ⟨0x3231, 0x3231, .spelled [0x28, 0x682A, 0x29]⟩,
  ⟨0x3232, 0x3232, .spelled [0x28, 0x6709, 0x29]⟩, ⟨0x3233, 0x3233, .spelled [0x28, 0x793E, 0x29]⟩,
  ⟨0x3234, 0x3234, .spelled [0x28, 0x540D, 0x29]⟩, ⟨0x3235, 0x3235, .spelled [0x28, 0x7279, 0x29]⟩,
  ⟨0x3236, 0x3236, .spelled [0x28, 0x8CA1, 0x29]⟩, ⟨0x3237, 0x3237, .spelled [0x28, 0x795D, 0x29]⟩,
  ⟨0x3238, 0x3238, .spelled [0x28, 0x52B4, 0x29]⟩, ⟨0x3239, 0x3239, .spelled [0x28, 0x4EE3, 0x29]⟩,
  ⟨0x323A, 0x323A, .spelled [0x28, 0x547C, 0x29]⟩, ⟨0x323B, 0x323B, .spelled [0x28, 0x5B66, 0x29]⟩,
  ⟨0x323C, 0x323C, .spelled [0x28, 0x76E3, 0x29]⟩, ⟨0x323D, 0x323D, .spelled [0x28, 0x4F01, 0x29]⟩,
  ⟨0x323E, 0x323E, .spelled [0x28, 0x8CC7, 0x29]⟩, ⟨0x323F, 0x323F, .spelled [0x28, 0x5354, 0x29]⟩,
  ⟨0x3240, 0x3240, .spelled [0x28, 0x796D, 0x29]⟩, ⟨0x3241, 0x3241, .spelled [0x28, 0x4F11, 0x29]⟩,
  ⟨0x3242, 0x3242, .spelled [0x28, 0x81EA, 0x29]⟩, ⟨0x3243, 0x3243, .spelled [0x28, 0x81F3, 0x29]⟩,
  ⟨0x3244, 0x3244, .spelled [0x554F]⟩, ⟨0x3245, 0x3245, .spelled [0x5E7C]⟩,
  ⟨0x3246, 0x3246, .spelled [0x6587]⟩, ⟨0x3247, 0x3247, .spelled [0x7B8F]⟩,
  ⟨0x3250, 0x3250, .spelled [0x70, 0x74, 0x65]⟩, ⟨0x3251, 0x3251, .spelled [0x32, 0x31]⟩,
  ⟨0x3252, 0x3252, .spelled [0x32, 0x32]⟩, ⟨0x3253, 0x3253, .spelled [0x32, 0x33]⟩,
  ⟨0x3254, 0x3254, .spelled [0x32, 0x34]⟩, ⟨0x3255, 0x3255, .spelled [0x32, 0x35]⟩,
  ⟨0x3256, 0x3256, .spelled [0x32, 0x36]⟩, ⟨0x3257, 0x3257, .spelled [0x32, 0x37]⟩,
  ⟨0x3258, 0x3258, .spelled [0x32, 0x38]⟩, ⟨0x3259, 0x3259, .spelled [0x32, 0x39]⟩,
  ⟨0x325A, 0x325A, .spelled [0x33, 0x30]⟩, ⟨0x325B, 0x325B, .spelled [0x33, 0x31]⟩,
  ⟨0x325C, 0x325C, .spelled [0x33, 0x32]⟩, ⟨0x325D, 0x325D, .spelled [0x33, 0x33]⟩,
  ⟨0x325E, 0x325E, .spelled [0x33, 0x34]⟩, ⟨0x325F, 0x325F, .spelled [0x33, 0x35]⟩,
  ⟨0x3260, 0x3260, .spelled [0x1100]⟩, ⟨0x3261, 0x3262, .moved 0x1102⟩,
  ⟨0x3263, 0x3265, .moved 0x1105⟩, ⟨0x3266, 0x3266, .spelled [0x1109]⟩,
  ⟨0x3267, 0x3268, .moved 0x110B⟩, ⟨0x3269, 0x326D, .moved 0x110E⟩,
  ⟨0x326E, 0x326E, .spelled [0x1100, 0x1161]⟩, ⟨0x326F, 0x326F, .spelled [0x1102, 0x1161]⟩,
  ⟨0x3270, 0x3270, .spelled [0x1103, 0x1161]⟩, ⟨0x3271, 0x3271, .spelled [0x1105, 0x1161]⟩,
  ⟨0x3272, 0x3272, .spelled [0x1106, 0x1161]⟩, ⟨0x3273, 0x3273, .spelled [0x1107, 0x1161]⟩,
  ⟨0x3274, 0x3274, .spelled [0x1109, 0x1161]⟩, ⟨0x3275, 0x3275, .spelled [0x110B, 0x1161]⟩,
  ⟨0x3276, 0x3276, .spelled [0x110C, 0x1161]⟩, ⟨0x3277, 0x3277, .spelled [0x110E, 0x1161]⟩,
  ⟨0x3278, 0x3278, .spelled [0x110F, 0x1161]⟩, ⟨0x3279, 0x3279, .spelled [0x1110, 0x1161]⟩,
  ⟨0x327A, 0x327A, .spelled [0x1111, 0x1161]⟩, ⟨0x327B, 0x327B, .spelled [0x1112, 0x1161]⟩,
  ⟨0x327C, 0x327C, .spelled [0x110E, 0x1161, 0x11B7, 0x1100, 0x1169]⟩,
  ⟨0x327D, 0x327D, .spelled [0x110C, 0x116E, 0x110B, 0x1174]⟩,
  ⟨0x327E, 0x327E, .spelled [0x110B, 0x116E]⟩, ⟨0x3280, 0x3280, .spelled [0x4E00]⟩,
  ⟨0x3281, 0x3281, .spelled [0x4E8C]⟩, ⟨0x3282, 0x3282, .spelled [0x4E09]⟩,
  ⟨0x3283, 0x3283, .spelled [0x56DB]⟩, ⟨0x3284, 0x3284, .spelled [0x4E94]⟩,
  ⟨0x3285, 0x3285, .spelled [0x516D]⟩, ⟨0x3286, 0x3286, .spelled [0x4E03]⟩,
  ⟨0x3287, 0x3287, .spelled [0x516B]⟩, ⟨0x3288, 0x3288, .spelled [0x4E5D]⟩,
  ⟨0x3289, 0x3289, .spelled [0x5341]⟩, ⟨0x328A, 0x328A, .spelled [0x6708]⟩,
  ⟨0x328B, 0x328B, .spelled [0x706B]⟩, ⟨0x328C, 0x328C, .spelled [0x6C34]⟩,
  ⟨0x328D, 0x328D, .spelled [0x6728]⟩, ⟨0x328E, 0x328E, .spelled [0x91D1]⟩,
  ⟨0x328F, 0x328F, .spelled [0x571F]⟩, ⟨0x3290, 0x3290, .spelled [0x65E5]⟩,
  ⟨0x3291, 0x3291, .spelled [0x682A]⟩, ⟨0x3292, 0x3292, .spelled [0x6709]⟩,
  ⟨0x3293, 0x3293, .spelled [0x793E]⟩, ⟨0x3294, 0x3294, .spelled [0x540D]⟩,
  ⟨0x3295, 0x3295, .spelled [0x7279]⟩, ⟨0x3296, 0x3296, .spelled [0x8CA1]⟩,
  ⟨0x3297, 0x3297, .spelled [0x795D]⟩, ⟨0x3298, 0x3298, .spelled [0x52B4]⟩,
  ⟨0x3299, 0x3299, .spelled [0x79D8]⟩, ⟨0x329A, 0x329A, .spelled [0x7537]⟩,
  ⟨0x329B, 0x329B, .spelled [0x5973]⟩, ⟨0x329C, 0x329C, .spelled [0x9069]⟩,
  ⟨0x329D, 0x329D, .spelled [0x512A]⟩, ⟨0x329E, 0x329E, .spelled [0x5370]⟩,
  ⟨0x329F, 0x329F, .spelled [0x6CE8]⟩, ⟨0x32A0, 0x32A0, .spelled [0x9805]⟩,
  ⟨0x32A1, 0x32A1, .spelled [0x4F11]⟩, ⟨0x32A2, 0x32A2, .spelled [0x5199]⟩,
  ⟨0x32A3, 0x32A3, .spelled [0x6B63]⟩, ⟨0x32A4, 0x32A4, .spelled [0x4E0A]⟩,
  ⟨0x32A5, 0x32A5, .spelled [0x4E2D]⟩, ⟨0x32A6, 0x32A6, .spelled [0x4E0B]⟩,
  ⟨0x32A7, 0x32A7, .spelled [0x5DE6]⟩, ⟨0x32A8, 0x32A8, .spelled [0x53F3]⟩,
  ⟨0x32A9, 0x32A9, .spelled [0x533B]⟩, ⟨0x32AA, 0x32AA, .spelled [0x5B97]⟩,
  ⟨0x32AB, 0x32AB, .spelled [0x5B66]⟩, ⟨0x32AC, 0x32AC, .spelled [0x76E3]⟩,
  ⟨0x32AD, 0x32AD, .spelled [0x4F01]⟩, ⟨0x32AE, 0x32AE, .spelled [0x8CC7]⟩,
  ⟨0x32AF, 0x32AF, .spelled [0x5354]⟩, ⟨0x32B0, 0x32B0, .spelled [0x591C]⟩,
  ⟨0x32B1, 0x32B1, .spelled [0x33, 0x36]⟩, ⟨0x32B2, 0x32B2, .spelled [0x33, 0x37]⟩,
  ⟨0x32B3, 0x32B3, .spelled [0x33, 0x38]⟩, ⟨0x32B4, 0x32B4, .spelled [0x33, 0x39]⟩,
  ⟨0x32B5, 0x32B5, .spelled [0x34, 0x30]⟩, ⟨0x32B6, 0x32B6, .spelled [0x34, 0x31]⟩,
  ⟨0x32B7, 0x32B7, .spelled [0x34, 0x32]⟩, ⟨0x32B8, 0x32B8, .spelled [0x34, 0x33]⟩,
  ⟨0x32B9, 0x32B9, .spelled [0x34, 0x34]⟩, ⟨0x32BA, 0x32BA, .spelled [0x34, 0x35]⟩,
  ⟨0x32BB, 0x32BB, .spelled [0x34, 0x36]⟩, ⟨0x32BC, 0x32BC, .spelled [0x34, 0x37]⟩,
  ⟨0x32BD, 0x32BD, .spelled [0x34, 0x38]⟩, ⟨0x32BE, 0x32BE, .spelled [0x34, 0x39]⟩,
  ⟨0x32BF, 0x32BF, .spelled [0x35, 0x30]⟩, ⟨0x32C0, 0x32C0, .spelled [0x31, 0x6708]⟩,
  ⟨0x32C1, 0x32C1, .spelled [0x32, 0x6708]⟩, ⟨0x32C2, 0x32C2, .spelled [0x33, 0x6708]⟩,
  ⟨0x32C3, 0x32C3, .spelled [0x34, 0x6708]⟩, ⟨0x32C4, 0x32C4, .spelled [0x35, 0x6708]⟩,
  ⟨0x32C5, 0x32C5, .spelled [0x36, 0x6708]⟩, ⟨0x32C6, 0x32C6, .spelled [0x37, 0x6708]⟩,
  ⟨0x32C7, 0x32C7, .spelled [0x38, 0x6708]⟩, ⟨0x32C8, 0x32C8, .spelled [0x39, 0x6708]⟩,
  ⟨0x32C9, 0x32C9, .spelled [0x31, 0x30, 0x6708]⟩, ⟨0x32CA, 0x32CA, .spelled [0x31, 0x31, 0x6708]⟩,
  ⟨0x32CB, 0x32CB, .spelled [0x31, 0x32, 0x6708]⟩, ⟨0x32CC, 0x32CC, .spelled [0x68, 0x67]⟩]

private def eastAsianRows3 : List (CodeRange Folding) := [
  ⟨0x32CD, 0x32CD, .spelled [0x65, 0x72, 0x67]⟩, ⟨0x32CE, 0x32CE, .spelled [0x65, 0x76]⟩,
  ⟨0x32CF, 0x32CF, .spelled [0x6C, 0x74, 0x64]⟩, ⟨0x32D0, 0x32D0, .spelled [0x30A2]⟩,
  ⟨0x32D1, 0x32D1, .spelled [0x30A4]⟩, ⟨0x32D2, 0x32D2, .spelled [0x30A6]⟩,
  ⟨0x32D3, 0x32D3, .spelled [0x30A8]⟩, ⟨0x32D4, 0x32D5, .moved 0x30AA⟩,
  ⟨0x32D6, 0x32D6, .spelled [0x30AD]⟩, ⟨0x32D7, 0x32D7, .spelled [0x30AF]⟩,
  ⟨0x32D8, 0x32D8, .spelled [0x30B1]⟩, ⟨0x32D9, 0x32D9, .spelled [0x30B3]⟩,
  ⟨0x32DA, 0x32DA, .spelled [0x30B5]⟩, ⟨0x32DB, 0x32DB, .spelled [0x30B7]⟩,
  ⟨0x32DC, 0x32DC, .spelled [0x30B9]⟩, ⟨0x32DD, 0x32DD, .spelled [0x30BB]⟩,
  ⟨0x32DE, 0x32DE, .spelled [0x30BD]⟩, ⟨0x32DF, 0x32DF, .spelled [0x30BF]⟩,
  ⟨0x32E0, 0x32E0, .spelled [0x30C1]⟩, ⟨0x32E1, 0x32E1, .spelled [0x30C4]⟩,
  ⟨0x32E2, 0x32E2, .spelled [0x30C6]⟩, ⟨0x32E3, 0x32E3, .spelled [0x30C8]⟩,
  ⟨0x32E4, 0x32E9, .moved 0x30CA⟩, ⟨0x32EA, 0x32EA, .spelled [0x30D2]⟩,
  ⟨0x32EB, 0x32EB, .spelled [0x30D5]⟩, ⟨0x32EC, 0x32EC, .spelled [0x30D8]⟩,
  ⟨0x32ED, 0x32ED, .spelled [0x30DB]⟩, ⟨0x32EE, 0x32F2, .moved 0x30DE⟩,
  ⟨0x32F3, 0x32F3, .spelled [0x30E4]⟩, ⟨0x32F4, 0x32F4, .spelled [0x30E6]⟩,
  ⟨0x32F5, 0x32FA, .moved 0x30E8⟩, ⟨0x32FB, 0x32FE, .moved 0x30EF⟩,
  ⟨0x32FF, 0x32FF, .spelled [0x4EE4, 0x548C]⟩,
  ⟨0x3300, 0x3300, .spelled [0x30A2, 0x30CF, 0x30FC, 0x30C8]⟩,
  ⟨0x3301, 0x3301, .spelled [0x30A2, 0x30EB, 0x30D5, 0x30A1]⟩,
  ⟨0x3302, 0x3302, .spelled [0x30A2, 0x30F3, 0x30D8, 0x30A2]⟩,
  ⟨0x3303, 0x3303, .spelled [0x30A2, 0x30FC, 0x30EB]⟩,
  ⟨0x3304, 0x3304, .spelled [0x30A4, 0x30CB, 0x30F3, 0x30AF]⟩,
  ⟨0x3305, 0x3305, .spelled [0x30A4, 0x30F3, 0x30C1]⟩,
  ⟨0x3306, 0x3306, .spelled [0x30A6, 0x30A9, 0x30F3]⟩,
  ⟨0x3307, 0x3307, .spelled [0x30A8, 0x30B9, 0x30AF, 0x30FC, 0x30C8]⟩,
  ⟨0x3308, 0x3308, .spelled [0x30A8, 0x30FC, 0x30AB, 0x30FC]⟩,
  ⟨0x3309, 0x3309, .spelled [0x30AA, 0x30F3, 0x30B9]⟩,
  ⟨0x330A, 0x330A, .spelled [0x30AA, 0x30FC, 0x30E0]⟩,
  ⟨0x330B, 0x330B, .spelled [0x30AB, 0x30A4, 0x30EA]⟩,
  ⟨0x330C, 0x330C, .spelled [0x30AB, 0x30E9, 0x30C3, 0x30C8]⟩,
  ⟨0x330D, 0x330D, .spelled [0x30AB, 0x30ED, 0x30EA, 0x30FC]⟩,
  ⟨0x330E, 0x330E, .spelled [0x30AB, 0x30ED, 0x30F3]⟩,
  ⟨0x330F, 0x330F, .spelled [0x30AB, 0x30F3, 0x30DE]⟩, ⟨0x3310, 0x3310, .spelled [0x30AD, 0x30AB]⟩,
  ⟨0x3311, 0x3311, .spelled [0x30AD, 0x30CB, 0x30FC]⟩,
  ⟨0x3312, 0x3312, .spelled [0x30AD, 0x30E5, 0x30EA, 0x30FC]⟩,
  ⟨0x3313, 0x3313, .spelled [0x30AD, 0x30EB, 0x30BF, 0x30FC]⟩,
  ⟨0x3314, 0x3314, .spelled [0x30AD, 0x30ED]⟩,
  ⟨0x3315, 0x3315, .spelled [0x30AD, 0x30ED, 0x30AF, 0x30E9, 0x30E0]⟩,
  ⟨0x3316, 0x3316, .spelled [0x30AD, 0x30ED, 0x30E1, 0x30FC, 0x30C8, 0x30EB]⟩,
  ⟨0x3317, 0x3317, .spelled [0x30AD, 0x30ED, 0x30EF, 0x30C3, 0x30C8]⟩,
  ⟨0x3318, 0x3318, .spelled [0x30AF, 0x30E9, 0x30E0]⟩,
  ⟨0x3319, 0x3319, .spelled [0x30AF, 0x30E9, 0x30E0, 0x30C8, 0x30F3]⟩,
  ⟨0x331A, 0x331A, .spelled [0x30AF, 0x30EB, 0x30BB, 0x30A4, 0x30ED]⟩,
  ⟨0x331B, 0x331B, .spelled [0x30AF, 0x30ED, 0x30FC, 0x30CD]⟩,
  ⟨0x331C, 0x331C, .spelled [0x30B1, 0x30FC, 0x30B9]⟩,
  ⟨0x331D, 0x331D, .spelled [0x30B3, 0x30EB, 0x30CA]⟩,
  ⟨0x331E, 0x331E, .spelled [0x30B3, 0x30FC, 0x30DB]⟩,
  ⟨0x331F, 0x331F, .spelled [0x30B5, 0x30A4, 0x30AF, 0x30EB]⟩,
  ⟨0x3320, 0x3320, .spelled [0x30B5, 0x30F3, 0x30C1, 0x30FC, 0x30E0]⟩,
  ⟨0x3321, 0x3321, .spelled [0x30B7, 0x30EA, 0x30F3, 0x30AF]⟩,
  ⟨0x3322, 0x3322, .spelled [0x30BB, 0x30F3, 0x30C1]⟩,
  ⟨0x3323, 0x3323, .spelled [0x30BB, 0x30F3, 0x30C8]⟩,
  ⟨0x3324, 0x3324, .spelled [0x30BF, 0x30FC, 0x30B9]⟩, ⟨0x3325, 0x3325, .spelled [0x30C6, 0x30B7]⟩,
  ⟨0x3326, 0x3326, .spelled [0x30C8, 0x30EB]⟩, ⟨0x3327, 0x3327, .spelled [0x30C8, 0x30F3]⟩,
  ⟨0x3328, 0x3328, .spelled [0x30CA, 0x30CE]⟩, ⟨0x3329, 0x3329, .spelled [0x30CE, 0x30C3, 0x30C8]⟩,
  ⟨0x332A, 0x332A, .spelled [0x30CF, 0x30A4, 0x30C4]⟩,
  ⟨0x332B, 0x332B, .spelled [0x30CF, 0x30FC, 0x30BB, 0x30F3, 0x30C8]⟩,
  ⟨0x332C, 0x332C, .spelled [0x30CF, 0x30FC, 0x30C4]⟩,
  ⟨0x332D, 0x332D, .spelled [0x30CF, 0x30FC, 0x30EC, 0x30EB]⟩,
  ⟨0x332E, 0x332E, .spelled [0x30D2, 0x30A2, 0x30B9, 0x30C8, 0x30EB]⟩,
  ⟨0x332F, 0x332F, .spelled [0x30D2, 0x30AF, 0x30EB]⟩, ⟨0x3330, 0x3330, .spelled [0x30D2, 0x30B3]⟩,
  ⟨0x3331, 0x3331, .spelled [0x30D2, 0x30EB]⟩,
  ⟨0x3332, 0x3332, .spelled [0x30D5, 0x30A1, 0x30E9, 0x30C3, 0x30C8]⟩,
  ⟨0x3333, 0x3333, .spelled [0x30D5, 0x30A3, 0x30FC, 0x30C8]⟩,
  ⟨0x3334, 0x3334, .spelled [0x30D5, 0x30C3, 0x30B7, 0x30A7, 0x30EB]⟩,
  ⟨0x3335, 0x3335, .spelled [0x30D5, 0x30E9, 0x30F3]⟩,
  ⟨0x3336, 0x3336, .spelled [0x30D8, 0x30AF, 0x30BF, 0x30FC, 0x30EB]⟩,
  ⟨0x3337, 0x3337, .spelled [0x30D8, 0x30BD]⟩, ⟨0x3338, 0x3338, .spelled [0x30D8, 0x30CB, 0x30D2]⟩,
  ⟨0x3339, 0x3339, .spelled [0x30D8, 0x30EB, 0x30C4]⟩,
  ⟨0x333A, 0x333A, .spelled [0x30D8, 0x30F3, 0x30B9]⟩,
  ⟨0x333B, 0x333B, .spelled [0x30D8, 0x30FC, 0x30B7]⟩,
  ⟨0x333C, 0x333C, .spelled [0x30D8, 0x30FC, 0x30BF]⟩,
  ⟨0x333D, 0x333D, .spelled [0x30DB, 0x30A4, 0x30F3, 0x30C8]⟩,
  ⟨0x333E, 0x333E, .spelled [0x30DB, 0x30EB, 0x30C8]⟩, ⟨0x333F, 0x333F, .spelled [0x30DB, 0x30F3]⟩,
  ⟨0x3340, 0x3340, .spelled [0x30DB, 0x30F3, 0x30C8]⟩,
  ⟨0x3341, 0x3341, .spelled [0x30DB, 0x30FC, 0x30EB]⟩,
  ⟨0x3342, 0x3342, .spelled [0x30DB, 0x30FC, 0x30F3]⟩,
  ⟨0x3343, 0x3343, .spelled [0x30DE, 0x30A4, 0x30AF, 0x30ED]⟩,
  ⟨0x3344, 0x3344, .spelled [0x30DE, 0x30A4, 0x30EB]⟩,
  ⟨0x3345, 0x3345, .spelled [0x30DE, 0x30C3, 0x30CF]⟩,
  ⟨0x3346, 0x3346, .spelled [0x30DE, 0x30EB, 0x30AF]⟩,
  ⟨0x3347, 0x3347, .spelled [0x30DE, 0x30F3, 0x30B7, 0x30E7, 0x30F3]⟩,
  ⟨0x3348, 0x3348, .spelled [0x30DF, 0x30AF, 0x30ED, 0x30F3]⟩,
  ⟨0x3349, 0x3349, .spelled [0x30DF, 0x30EA]⟩,
  ⟨0x334A, 0x334A, .spelled [0x30DF, 0x30EA, 0x30CF, 0x30FC, 0x30EB]⟩,
  ⟨0x334B, 0x334B, .spelled [0x30E1, 0x30AB]⟩,
  ⟨0x334C, 0x334C, .spelled [0x30E1, 0x30AB, 0x30C8, 0x30F3]⟩,
  ⟨0x334D, 0x334D, .spelled [0x30E1, 0x30FC, 0x30C8, 0x30EB]⟩,
  ⟨0x334E, 0x334E, .spelled [0x30E4, 0x30FC, 0x30C8]⟩,
  ⟨0x334F, 0x334F, .spelled [0x30E4, 0x30FC, 0x30EB]⟩,
  ⟨0x3350, 0x3350, .spelled [0x30E6, 0x30A2, 0x30F3]⟩,
  ⟨0x3351, 0x3351, .spelled [0x30EA, 0x30C3, 0x30C8, 0x30EB]⟩,
  ⟨0x3352, 0x3352, .spelled [0x30EA, 0x30E9]⟩, ⟨0x3353, 0x3353, .spelled [0x30EB, 0x30D2, 0x30FC]⟩,
  ⟨0x3354, 0x3354, .spelled [0x30EB, 0x30FC, 0x30D5, 0x30EB]⟩,
  ⟨0x3355, 0x3355, .spelled [0x30EC, 0x30E0]⟩,
  ⟨0x3356, 0x3356, .spelled [0x30EC, 0x30F3, 0x30C8, 0x30B1, 0x30F3]⟩,
  ⟨0x3357, 0x3357, .spelled [0x30EF, 0x30C3, 0x30C8]⟩, ⟨0x3358, 0x3358, .spelled [0x30, 0x70B9]⟩,
  ⟨0x3359, 0x3359, .spelled [0x31, 0x70B9]⟩, ⟨0x335A, 0x335A, .spelled [0x32, 0x70B9]⟩,
  ⟨0x335B, 0x335B, .spelled [0x33, 0x70B9]⟩, ⟨0x335C, 0x335C, .spelled [0x34, 0x70B9]⟩,
  ⟨0x335D, 0x335D, .spelled [0x35, 0x70B9]⟩, ⟨0x335E, 0x335E, .spelled [0x36, 0x70B9]⟩,
  ⟨0x335F, 0x335F, .spelled [0x37, 0x70B9]⟩, ⟨0x3360, 0x3360, .spelled [0x38, 0x70B9]⟩,
  ⟨0x3361, 0x3361, .spelled [0x39, 0x70B9]⟩, ⟨0x3362, 0x3362, .spelled [0x31, 0x30, 0x70B9]⟩,
  ⟨0x3363, 0x3363, .spelled [0x31, 0x31, 0x70B9]⟩, ⟨0x3364, 0x3364, .spelled [0x31, 0x32, 0x70B9]⟩,
  ⟨0x3365, 0x3365, .spelled [0x31, 0x33, 0x70B9]⟩, ⟨0x3366, 0x3366, .spelled [0x31, 0x34, 0x70B9]⟩,
  ⟨0x3367, 0x3367, .spelled [0x31, 0x35, 0x70B9]⟩, ⟨0x3368, 0x3368, .spelled [0x31, 0x36, 0x70B9]⟩,
  ⟨0x3369, 0x3369, .spelled [0x31, 0x37, 0x70B9]⟩, ⟨0x336A, 0x336A, .spelled [0x31, 0x38, 0x70B9]⟩,
  ⟨0x336B, 0x336B, .spelled [0x31, 0x39, 0x70B9]⟩, ⟨0x336C, 0x336C, .spelled [0x32, 0x30, 0x70B9]⟩,
  ⟨0x336D, 0x336D, .spelled [0x32, 0x31, 0x70B9]⟩, ⟨0x336E, 0x336E, .spelled [0x32, 0x32, 0x70B9]⟩,
  ⟨0x336F, 0x336F, .spelled [0x32, 0x33, 0x70B9]⟩, ⟨0x3370, 0x3370, .spelled [0x32, 0x34, 0x70B9]⟩,
  ⟨0x3371, 0x3371, .spelled [0x68, 0x70, 0x61]⟩, ⟨0x3372, 0x3372, .spelled [0x64, 0x61]⟩,
  ⟨0x3373, 0x3373, .spelled [0x61, 0x75]⟩, ⟨0x3374, 0x3374, .spelled [0x62, 0x61, 0x72]⟩,
  ⟨0x3375, 0x3375, .spelled [0x6F, 0x76]⟩, ⟨0x3376, 0x3376, .spelled [0x70, 0x63]⟩,
  ⟨0x3377, 0x3377, .spelled [0x64, 0x6D]⟩, ⟨0x3378, 0x3378, .spelled [0x64, 0x6D, 0x32]⟩,
  ⟨0x3379, 0x3379, .spelled [0x64, 0x6D, 0x33]⟩, ⟨0x337A, 0x337A, .spelled [0x69, 0x75]⟩,
  ⟨0x337B, 0x337B, .spelled [0x5E73, 0x6210]⟩, ⟨0x337C, 0x337C, .spelled [0x662D, 0x548C]⟩,
  ⟨0x337D, 0x337D, .spelled [0x5927, 0x6B63]⟩, ⟨0x337E, 0x337E, .spelled [0x660E, 0x6CBB]⟩,
  ⟨0x337F, 0x337F, .spelled [0x682A, 0x5F0F, 0x4F1A, 0x793E]⟩,
  ⟨0x3380, 0x3380, .spelled [0x70, 0x61]⟩, ⟨0x3381, 0x3381, .spelled [0x6E, 0x61]⟩,
  ⟨0x3382, 0x3382, .spelled [0x3BC, 0x61]⟩, ⟨0x3383, 0x3383, .spelled [0x6D, 0x61]⟩,
  ⟨0x3384, 0x3384, .spelled [0x6B, 0x61]⟩, ⟨0x3385, 0x3385, .spelled [0x6B, 0x62]⟩,
  ⟨0x3386, 0x3386, .spelled [0x6D, 0x62]⟩, ⟨0x3387, 0x3387, .spelled [0x67, 0x62]⟩,
  ⟨0x3388, 0x3388, .spelled [0x63, 0x61, 0x6C]⟩,
  ⟨0x3389, 0x3389, .spelled [0x6B, 0x63, 0x61, 0x6C]⟩, ⟨0x338A, 0x338A, .spelled [0x70, 0x66]⟩,
  ⟨0x338B, 0x338B, .spelled [0x6E, 0x66]⟩, ⟨0x338C, 0x338C, .spelled [0x3BC, 0x66]⟩,
  ⟨0x338D, 0x338D, .spelled [0x3BC, 0x67]⟩, ⟨0x338E, 0x338E, .spelled [0x6D, 0x67]⟩,
  ⟨0x338F, 0x338F, .spelled [0x6B, 0x67]⟩, ⟨0x3390, 0x3390, .spelled [0x68, 0x7A]⟩,
  ⟨0x3391, 0x3391, .spelled [0x6B, 0x68, 0x7A]⟩, ⟨0x3392, 0x3392, .spelled [0x6D, 0x68, 0x7A]⟩,
  ⟨0x3393, 0x3393, .spelled [0x67, 0x68, 0x7A]⟩, ⟨0x3394, 0x3394, .spelled [0x74, 0x68, 0x7A]⟩,
  ⟨0x3395, 0x3395, .spelled [0x3BC, 0x6C]⟩, ⟨0x3396, 0x3396, .spelled [0x6D, 0x6C]⟩,
  ⟨0x3397, 0x3397, .spelled [0x64, 0x6C]⟩, ⟨0x3398, 0x3398, .spelled [0x6B, 0x6C]⟩,
  ⟨0x3399, 0x3399, .spelled [0x66, 0x6D]⟩, ⟨0x339A, 0x339A, .spelled [0x6E, 0x6D]⟩,
  ⟨0x339B, 0x339B, .spelled [0x3BC, 0x6D]⟩, ⟨0x339C, 0x339C, .spelled [0x6D, 0x6D]⟩,
  ⟨0x339D, 0x339D, .spelled [0x63, 0x6D]⟩, ⟨0x339E, 0x339E, .spelled [0x6B, 0x6D]⟩,
  ⟨0x339F, 0x339F, .spelled [0x6D, 0x6D, 0x32]⟩, ⟨0x33A0, 0x33A0, .spelled [0x63, 0x6D, 0x32]⟩,
  ⟨0x33A1, 0x33A1, .spelled [0x6D, 0x32]⟩, ⟨0x33A2, 0x33A2, .spelled [0x6B, 0x6D, 0x32]⟩,
  ⟨0x33A3, 0x33A3, .spelled [0x6D, 0x6D, 0x33]⟩, ⟨0x33A4, 0x33A4, .spelled [0x63, 0x6D, 0x33]⟩,
  ⟨0x33A5, 0x33A5, .spelled [0x6D, 0x33]⟩, ⟨0x33A6, 0x33A6, .spelled [0x6B, 0x6D, 0x33]⟩,
  ⟨0x33A7, 0x33A7, .spelled [0x6D, 0x2215, 0x73]⟩,
  ⟨0x33A8, 0x33A8, .spelled [0x6D, 0x2215, 0x73, 0x32]⟩, ⟨0x33A9, 0x33A9, .spelled [0x70, 0x61]⟩,
  ⟨0x33AA, 0x33AA, .spelled [0x6B, 0x70, 0x61]⟩, ⟨0x33AB, 0x33AB, .spelled [0x6D, 0x70, 0x61]⟩,
  ⟨0x33AC, 0x33AC, .spelled [0x67, 0x70, 0x61]⟩, ⟨0x33AD, 0x33AD, .spelled [0x72, 0x61, 0x64]⟩,
  ⟨0x33AE, 0x33AE, .spelled [0x72, 0x61, 0x64, 0x2215, 0x73]⟩,
  ⟨0x33AF, 0x33AF, .spelled [0x72, 0x61, 0x64, 0x2215, 0x73, 0x32]⟩,
  ⟨0x33B0, 0x33B0, .spelled [0x70, 0x73]⟩, ⟨0x33B1, 0x33B1, .spelled [0x6E, 0x73]⟩,
  ⟨0x33B2, 0x33B2, .spelled [0x3BC, 0x73]⟩, ⟨0x33B3, 0x33B3, .spelled [0x6D, 0x73]⟩,
  ⟨0x33B4, 0x33B4, .spelled [0x70, 0x76]⟩, ⟨0x33B5, 0x33B5, .spelled [0x6E, 0x76]⟩,
  ⟨0x33B6, 0x33B6, .spelled [0x3BC, 0x76]⟩, ⟨0x33B7, 0x33B7, .spelled [0x6D, 0x76]⟩,
  ⟨0x33B8, 0x33B8, .spelled [0x6B, 0x76]⟩, ⟨0x33B9, 0x33B9, .spelled [0x6D, 0x76]⟩,
  ⟨0x33BA, 0x33BA, .spelled [0x70, 0x77]⟩, ⟨0x33BB, 0x33BB, .spelled [0x6E, 0x77]⟩,
  ⟨0x33BC, 0x33BC, .spelled [0x3BC, 0x77]⟩, ⟨0x33BD, 0x33BD, .spelled [0x6D, 0x77]⟩,
  ⟨0x33BE, 0x33BE, .spelled [0x6B, 0x77]⟩, ⟨0x33BF, 0x33BF, .spelled [0x6D, 0x77]⟩,
  ⟨0x33C0, 0x33C0, .spelled [0x6B, 0x3C9]⟩, ⟨0x33C1, 0x33C1, .spelled [0x6D, 0x3C9]⟩,
  ⟨0x33C2, 0x33C2, .spelled [0x61, 0x2E, 0x6D, 0x2E]⟩, ⟨0x33C3, 0x33C3, .spelled [0x62, 0x71]⟩,
  ⟨0x33C4, 0x33C4, .spelled [0x63, 0x63]⟩, ⟨0x33C5, 0x33C5, .spelled [0x63, 0x64]⟩,
  ⟨0x33C6, 0x33C6, .spelled [0x63, 0x2215, 0x6B, 0x67]⟩,
  ⟨0x33C7, 0x33C7, .spelled [0x63, 0x6F, 0x2E]⟩, ⟨0x33C8, 0x33C8, .spelled [0x64, 0x62]⟩,
  ⟨0x33C9, 0x33C9, .spelled [0x67, 0x79]⟩, ⟨0x33CA, 0x33CA, .spelled [0x68, 0x61]⟩,
  ⟨0x33CB, 0x33CB, .spelled [0x68, 0x70]⟩, ⟨0x33CC, 0x33CC, .spelled [0x69, 0x6E]⟩,
  ⟨0x33CD, 0x33CD, .spelled [0x6B, 0x6B]⟩, ⟨0x33CE, 0x33CE, .spelled [0x6B, 0x6D]⟩,
  ⟨0x33CF, 0x33CF, .spelled [0x6B, 0x74]⟩, ⟨0x33D0, 0x33D0, .spelled [0x6C, 0x6D]⟩,
  ⟨0x33D1, 0x33D1, .spelled [0x6C, 0x6E]⟩, ⟨0x33D2, 0x33D2, .spelled [0x6C, 0x6F, 0x67]⟩,
  ⟨0x33D3, 0x33D3, .spelled [0x6C, 0x78]⟩, ⟨0x33D4, 0x33D4, .spelled [0x6D, 0x62]⟩,
  ⟨0x33D5, 0x33D5, .spelled [0x6D, 0x69, 0x6C]⟩, ⟨0x33D6, 0x33D6, .spelled [0x6D, 0x6F, 0x6C]⟩,
  ⟨0x33D7, 0x33D7, .spelled [0x70, 0x68]⟩, ⟨0x33D8, 0x33D8, .spelled [0x70, 0x2E, 0x6D, 0x2E]⟩,
  ⟨0x33D9, 0x33D9, .spelled [0x70, 0x70, 0x6D]⟩, ⟨0x33DA, 0x33DA, .spelled [0x70, 0x72]⟩,
  ⟨0x33DB, 0x33DB, .spelled [0x73, 0x72]⟩, ⟨0x33DC, 0x33DC, .spelled [0x73, 0x76]⟩,
  ⟨0x33DD, 0x33DD, .spelled [0x77, 0x62]⟩, ⟨0x33DE, 0x33DE, .spelled [0x76, 0x2215, 0x6D]⟩]

private def eastAsianRows4 : List (CodeRange Folding) := [
  ⟨0x33DF, 0x33DF, .spelled [0x61, 0x2215, 0x6D]⟩, ⟨0x33E0, 0x33E0, .spelled [0x31, 0x65E5]⟩,
  ⟨0x33E1, 0x33E1, .spelled [0x32, 0x65E5]⟩, ⟨0x33E2, 0x33E2, .spelled [0x33, 0x65E5]⟩,
  ⟨0x33E3, 0x33E3, .spelled [0x34, 0x65E5]⟩, ⟨0x33E4, 0x33E4, .spelled [0x35, 0x65E5]⟩,
  ⟨0x33E5, 0x33E5, .spelled [0x36, 0x65E5]⟩, ⟨0x33E6, 0x33E6, .spelled [0x37, 0x65E5]⟩,
  ⟨0x33E7, 0x33E7, .spelled [0x38, 0x65E5]⟩, ⟨0x33E8, 0x33E8, .spelled [0x39, 0x65E5]⟩,
  ⟨0x33E9, 0x33E9, .spelled [0x31, 0x30, 0x65E5]⟩, ⟨0x33EA, 0x33EA, .spelled [0x31, 0x31, 0x65E5]⟩,
  ⟨0x33EB, 0x33EB, .spelled [0x31, 0x32, 0x65E5]⟩, ⟨0x33EC, 0x33EC, .spelled [0x31, 0x33, 0x65E5]⟩,
  ⟨0x33ED, 0x33ED, .spelled [0x31, 0x34, 0x65E5]⟩, ⟨0x33EE, 0x33EE, .spelled [0x31, 0x35, 0x65E5]⟩,
  ⟨0x33EF, 0x33EF, .spelled [0x31, 0x36, 0x65E5]⟩, ⟨0x33F0, 0x33F0, .spelled [0x31, 0x37, 0x65E5]⟩,
  ⟨0x33F1, 0x33F1, .spelled [0x31, 0x38, 0x65E5]⟩, ⟨0x33F2, 0x33F2, .spelled [0x31, 0x39, 0x65E5]⟩,
  ⟨0x33F3, 0x33F3, .spelled [0x32, 0x30, 0x65E5]⟩, ⟨0x33F4, 0x33F4, .spelled [0x32, 0x31, 0x65E5]⟩,
  ⟨0x33F5, 0x33F5, .spelled [0x32, 0x32, 0x65E5]⟩, ⟨0x33F6, 0x33F6, .spelled [0x32, 0x33, 0x65E5]⟩,
  ⟨0x33F7, 0x33F7, .spelled [0x32, 0x34, 0x65E5]⟩, ⟨0x33F8, 0x33F8, .spelled [0x32, 0x35, 0x65E5]⟩,
  ⟨0x33F9, 0x33F9, .spelled [0x32, 0x36, 0x65E5]⟩, ⟨0x33FA, 0x33FA, .spelled [0x32, 0x37, 0x65E5]⟩,
  ⟨0x33FB, 0x33FB, .spelled [0x32, 0x38, 0x65E5]⟩, ⟨0x33FC, 0x33FC, .spelled [0x32, 0x39, 0x65E5]⟩,
  ⟨0x33FD, 0x33FD, .spelled [0x33, 0x30, 0x65E5]⟩, ⟨0x33FE, 0x33FE, .spelled [0x33, 0x31, 0x65E5]⟩,
  ⟨0x33FF, 0x33FF, .spelled [0x67, 0x61, 0x6C]⟩, ⟨0xA640, 0xA640, .spelled [0xA641]⟩,
  ⟨0xA642, 0xA642, .spelled [0xA643]⟩, ⟨0xA644, 0xA644, .spelled [0xA645]⟩,
  ⟨0xA646, 0xA646, .spelled [0xA647]⟩, ⟨0xA648, 0xA648, .spelled [0xA649]⟩,
  ⟨0xA64A, 0xA64A, .spelled [0xA64B]⟩, ⟨0xA64C, 0xA64C, .spelled [0xA64D]⟩,
  ⟨0xA64E, 0xA64E, .spelled [0xA64F]⟩, ⟨0xA650, 0xA650, .spelled [0xA651]⟩,
  ⟨0xA652, 0xA652, .spelled [0xA653]⟩, ⟨0xA654, 0xA654, .spelled [0xA655]⟩,
  ⟨0xA656, 0xA656, .spelled [0xA657]⟩, ⟨0xA658, 0xA658, .spelled [0xA659]⟩,
  ⟨0xA65A, 0xA65A, .spelled [0xA65B]⟩, ⟨0xA65C, 0xA65C, .spelled [0xA65D]⟩,
  ⟨0xA65E, 0xA65E, .spelled [0xA65F]⟩, ⟨0xA660, 0xA660, .spelled [0xA661]⟩,
  ⟨0xA662, 0xA662, .spelled [0xA663]⟩, ⟨0xA664, 0xA664, .spelled [0xA665]⟩,
  ⟨0xA666, 0xA666, .spelled [0xA667]⟩, ⟨0xA668, 0xA668, .spelled [0xA669]⟩,
  ⟨0xA66A, 0xA66A, .spelled [0xA66B]⟩, ⟨0xA66C, 0xA66C, .spelled [0xA66D]⟩,
  ⟨0xA66F, 0xA672, .spelled []⟩, ⟨0xA674, 0xA67D, .spelled []⟩, ⟨0xA680, 0xA680, .spelled [0xA681]⟩,
  ⟨0xA682, 0xA682, .spelled [0xA683]⟩, ⟨0xA684, 0xA684, .spelled [0xA685]⟩,
  ⟨0xA686, 0xA686, .spelled [0xA687]⟩, ⟨0xA688, 0xA688, .spelled [0xA689]⟩,
  ⟨0xA68A, 0xA68A, .spelled [0xA68B]⟩, ⟨0xA68C, 0xA68C, .spelled [0xA68D]⟩,
  ⟨0xA68E, 0xA68E, .spelled [0xA68F]⟩, ⟨0xA690, 0xA690, .spelled [0xA691]⟩,
  ⟨0xA692, 0xA692, .spelled [0xA693]⟩, ⟨0xA694, 0xA694, .spelled [0xA695]⟩,
  ⟨0xA696, 0xA696, .spelled [0xA697]⟩, ⟨0xA698, 0xA698, .spelled [0xA699]⟩,
  ⟨0xA69A, 0xA69A, .spelled [0xA69B]⟩, ⟨0xA69C, 0xA69C, .spelled [0x44A]⟩,
  ⟨0xA69D, 0xA69D, .spelled [0x44C]⟩, ⟨0xA69E, 0xA69F, .spelled []⟩, ⟨0xA6F0, 0xA6F1, .spelled []⟩,
  ⟨0xA722, 0xA722, .spelled [0xA723]⟩, ⟨0xA724, 0xA724, .spelled [0xA725]⟩,
  ⟨0xA726, 0xA726, .spelled [0xA727]⟩, ⟨0xA728, 0xA728, .spelled [0xA729]⟩,
  ⟨0xA72A, 0xA72A, .spelled [0xA72B]⟩, ⟨0xA72C, 0xA72C, .spelled [0xA72D]⟩,
  ⟨0xA72E, 0xA72E, .spelled [0xA72F]⟩, ⟨0xA732, 0xA732, .spelled [0xA733]⟩,
  ⟨0xA734, 0xA734, .spelled [0xA735]⟩, ⟨0xA736, 0xA736, .spelled [0xA737]⟩,
  ⟨0xA738, 0xA738, .spelled [0xA739]⟩, ⟨0xA73A, 0xA73A, .spelled [0xA73B]⟩,
  ⟨0xA73C, 0xA73C, .spelled [0xA73D]⟩, ⟨0xA73E, 0xA73E, .spelled [0xA73F]⟩,
  ⟨0xA740, 0xA740, .spelled [0xA741]⟩, ⟨0xA742, 0xA742, .spelled [0xA743]⟩,
  ⟨0xA744, 0xA744, .spelled [0xA745]⟩, ⟨0xA746, 0xA746, .spelled [0xA747]⟩,
  ⟨0xA748, 0xA748, .spelled [0xA749]⟩, ⟨0xA74A, 0xA74A, .spelled [0xA74B]⟩,
  ⟨0xA74C, 0xA74C, .spelled [0xA74D]⟩, ⟨0xA74E, 0xA74E, .spelled [0xA74F]⟩,
  ⟨0xA750, 0xA750, .spelled [0xA751]⟩, ⟨0xA752, 0xA752, .spelled [0xA753]⟩,
  ⟨0xA754, 0xA754, .spelled [0xA755]⟩, ⟨0xA756, 0xA756, .spelled [0xA757]⟩,
  ⟨0xA758, 0xA758, .spelled [0xA759]⟩, ⟨0xA75A, 0xA75A, .spelled [0xA75B]⟩,
  ⟨0xA75C, 0xA75C, .spelled [0xA75D]⟩, ⟨0xA75E, 0xA75E, .spelled [0xA75F]⟩,
  ⟨0xA760, 0xA760, .spelled [0xA761]⟩, ⟨0xA762, 0xA762, .spelled [0xA763]⟩,
  ⟨0xA764, 0xA764, .spelled [0xA765]⟩, ⟨0xA766, 0xA766, .spelled [0xA767]⟩,
  ⟨0xA768, 0xA768, .spelled [0xA769]⟩, ⟨0xA76A, 0xA76A, .spelled [0xA76B]⟩,
  ⟨0xA76C, 0xA76C, .spelled [0xA76D]⟩, ⟨0xA76E, 0xA76E, .spelled [0xA76F]⟩,
  ⟨0xA770, 0xA770, .spelled [0xA76F]⟩, ⟨0xA779, 0xA779, .spelled [0xA77A]⟩,
  ⟨0xA77B, 0xA77B, .spelled [0xA77C]⟩, ⟨0xA77D, 0xA77D, .spelled [0x1D79]⟩,
  ⟨0xA77E, 0xA77E, .spelled [0xA77F]⟩, ⟨0xA780, 0xA780, .spelled [0xA781]⟩,
  ⟨0xA782, 0xA782, .spelled [0xA783]⟩, ⟨0xA784, 0xA784, .spelled [0xA785]⟩,
  ⟨0xA786, 0xA786, .spelled [0xA787]⟩, ⟨0xA78B, 0xA78B, .spelled [0xA78C]⟩,
  ⟨0xA78D, 0xA78D, .spelled [0x265]⟩, ⟨0xA790, 0xA790, .spelled [0xA791]⟩,
  ⟨0xA792, 0xA792, .spelled [0xA793]⟩, ⟨0xA796, 0xA796, .spelled [0xA797]⟩,
  ⟨0xA798, 0xA798, .spelled [0xA799]⟩, ⟨0xA79A, 0xA79A, .spelled [0xA79B]⟩,
  ⟨0xA79C, 0xA79C, .spelled [0xA79D]⟩, ⟨0xA79E, 0xA79E, .spelled [0xA79F]⟩,
  ⟨0xA7A0, 0xA7A0, .spelled [0xA7A1]⟩, ⟨0xA7A2, 0xA7A2, .spelled [0xA7A3]⟩,
  ⟨0xA7A4, 0xA7A4, .spelled [0xA7A5]⟩, ⟨0xA7A6, 0xA7A6, .spelled [0xA7A7]⟩,
  ⟨0xA7A8, 0xA7A8, .spelled [0xA7A9]⟩, ⟨0xA7AA, 0xA7AA, .spelled [0x266]⟩,
  ⟨0xA7AB, 0xA7AB, .spelled [0x25C]⟩, ⟨0xA7AC, 0xA7AC, .spelled [0x261]⟩,
  ⟨0xA7AD, 0xA7AD, .spelled [0x26C]⟩, ⟨0xA7AE, 0xA7AE, .spelled [0x26A]⟩,
  ⟨0xA7B0, 0xA7B0, .spelled [0x29E]⟩, ⟨0xA7B1, 0xA7B1, .spelled [0x287]⟩,
  ⟨0xA7B2, 0xA7B2, .spelled [0x29D]⟩, ⟨0xA7B3, 0xA7B3, .spelled [0xAB53]⟩,
  ⟨0xA7B4, 0xA7B4, .spelled [0xA7B5]⟩, ⟨0xA7B6, 0xA7B6, .spelled [0xA7B7]⟩,
  ⟨0xA7B8, 0xA7B8, .spelled [0xA7B9]⟩, ⟨0xA7BA, 0xA7BA, .spelled [0xA7BB]⟩,
  ⟨0xA7BC, 0xA7BC, .spelled [0xA7BD]⟩, ⟨0xA7BE, 0xA7BE, .spelled [0xA7BF]⟩,
  ⟨0xA7C0, 0xA7C0, .spelled [0xA7C1]⟩, ⟨0xA7C2, 0xA7C2, .spelled [0xA7C3]⟩,
  ⟨0xA7C4, 0xA7C4, .spelled [0xA794]⟩, ⟨0xA7C5, 0xA7C5, .spelled [0x282]⟩,
  ⟨0xA7C6, 0xA7C6, .spelled [0x1D8E]⟩, ⟨0xA7C7, 0xA7C7, .spelled [0xA7C8]⟩,
  ⟨0xA7C9, 0xA7C9, .spelled [0xA7CA]⟩, ⟨0xA7CB, 0xA7CB, .spelled [0x264]⟩,
  ⟨0xA7CC, 0xA7CC, .spelled [0xA7CD]⟩, ⟨0xA7CE, 0xA7CE, .spelled [0xA7CF]⟩,
  ⟨0xA7D0, 0xA7D0, .spelled [0xA7D1]⟩, ⟨0xA7D2, 0xA7D2, .spelled [0xA7D3]⟩,
  ⟨0xA7D4, 0xA7D4, .spelled [0xA7D5]⟩, ⟨0xA7D6, 0xA7D6, .spelled [0xA7D7]⟩,
  ⟨0xA7D8, 0xA7D8, .spelled [0xA7D9]⟩, ⟨0xA7DA, 0xA7DA, .spelled [0xA7DB]⟩,
  ⟨0xA7DC, 0xA7DC, .spelled [0x19B]⟩, ⟨0xA7F1, 0xA7F1, .spelled [0x73]⟩,
  ⟨0xA7F2, 0xA7F2, .spelled [0x63]⟩, ⟨0xA7F3, 0xA7F3, .spelled [0x66]⟩,
  ⟨0xA7F4, 0xA7F4, .spelled [0x71]⟩, ⟨0xA7F5, 0xA7F5, .spelled [0xA7F6]⟩,
  ⟨0xA7F8, 0xA7F8, .spelled [0x127]⟩, ⟨0xA7F9, 0xA7F9, .spelled [0x153]⟩,
  ⟨0xA802, 0xA802, .spelled []⟩, ⟨0xA806, 0xA806, .spelled []⟩, ⟨0xA80B, 0xA80B, .spelled []⟩,
  ⟨0xA823, 0xA827, .spelled []⟩, ⟨0xA82C, 0xA82C, .spelled []⟩, ⟨0xA880, 0xA881, .spelled []⟩,
  ⟨0xA8B4, 0xA8C5, .spelled []⟩, ⟨0xA8E0, 0xA8F1, .spelled []⟩, ⟨0xA8FF, 0xA8FF, .spelled []⟩,
  ⟨0xA926, 0xA92D, .spelled []⟩, ⟨0xA947, 0xA953, .spelled []⟩, ⟨0xA980, 0xA983, .spelled []⟩,
  ⟨0xA9B3, 0xA9C0, .spelled []⟩, ⟨0xA9E5, 0xA9E5, .spelled []⟩, ⟨0xAA29, 0xAA36, .spelled []⟩,
  ⟨0xAA43, 0xAA43, .spelled []⟩, ⟨0xAA4C, 0xAA4D, .spelled []⟩, ⟨0xAA7B, 0xAA7D, .spelled []⟩,
  ⟨0xAAB0, 0xAAB0, .spelled []⟩, ⟨0xAAB2, 0xAAB4, .spelled []⟩, ⟨0xAAB7, 0xAAB8, .spelled []⟩,
  ⟨0xAABE, 0xAABF, .spelled []⟩, ⟨0xAAC1, 0xAAC1, .spelled []⟩, ⟨0xAAEB, 0xAAEF, .spelled []⟩,
  ⟨0xAAF5, 0xAAF6, .spelled []⟩, ⟨0xAB5C, 0xAB5C, .spelled [0xA727]⟩,
  ⟨0xAB5D, 0xAB5D, .spelled [0xAB37]⟩, ⟨0xAB5E, 0xAB5E, .spelled [0x26B]⟩,
  ⟨0xAB5F, 0xAB5F, .spelled [0xAB52]⟩, ⟨0xAB69, 0xAB69, .spelled [0x28D]⟩,
  ⟨0xABE3, 0xABEA, .spelled []⟩, ⟨0xABEC, 0xABED, .spelled []⟩]

def eastAsian : List (CodeRange Folding) :=
  eastAsianRows1 ++ eastAsianRows2 ++ eastAsianRows3 ++ eastAsianRows4

end TenantSearch.Text.Folding
