import TenantSearch.Text.Fold.Rule

/-! Folded forms of Unicode 17.0: presentation forms, half-width and full-width forms.
A character without a row stands for itself. -/
namespace TenantSearch.Text.Folding

private def presentationRows1 : List (CodeRange Folding) := [
  ⟨0xFB00, 0xFB00, .spelled [0x66, 0x66]⟩, ⟨0xFB01, 0xFB01, .spelled [0x66, 0x69]⟩,
  ⟨0xFB02, 0xFB02, .spelled [0x66, 0x6C]⟩, ⟨0xFB03, 0xFB03, .spelled [0x66, 0x66, 0x69]⟩,
  ⟨0xFB04, 0xFB04, .spelled [0x66, 0x66, 0x6C]⟩, ⟨0xFB05, 0xFB06, .spelled [0x73, 0x74]⟩,
  ⟨0xFB13, 0xFB13, .spelled [0x574, 0x576]⟩, ⟨0xFB14, 0xFB14, .spelled [0x574, 0x565]⟩,
  ⟨0xFB15, 0xFB15, .spelled [0x574, 0x56B]⟩, ⟨0xFB16, 0xFB16, .spelled [0x57E, 0x576]⟩,
  ⟨0xFB17, 0xFB17, .spelled [0x574, 0x56D]⟩, ⟨0xFB1D, 0xFB1D, .spelled [0x5D9]⟩,
  ⟨0xFB1E, 0xFB1E, .spelled []⟩, ⟨0xFB1F, 0xFB1F, .spelled [0x5F2]⟩,
  ⟨0xFB20, 0xFB20, .spelled [0x5E2]⟩, ⟨0xFB21, 0xFB21, .spelled [0x5D0]⟩,
  ⟨0xFB22, 0xFB23, .moved 0x5D3⟩, ⟨0xFB24, 0xFB26, .moved 0x5DB⟩,
  ⟨0xFB27, 0xFB27, .spelled [0x5E8]⟩, ⟨0xFB28, 0xFB28, .spelled [0x5EA]⟩,
  ⟨0xFB29, 0xFB29, .spelled [0x2B]⟩, ⟨0xFB2A, 0xFB2D, .spelled [0x5E9]⟩,
  ⟨0xFB2E, 0xFB30, .spelled [0x5D0]⟩, ⟨0xFB31, 0xFB36, .moved 0x5D1⟩,
  ⟨0xFB38, 0xFB3C, .moved 0x5D8⟩, ⟨0xFB3E, 0xFB3E, .spelled [0x5DE]⟩,
  ⟨0xFB40, 0xFB41, .moved 0x5E0⟩, ⟨0xFB43, 0xFB44, .moved 0x5E3⟩, ⟨0xFB46, 0xFB4A, .moved 0x5E6⟩,
  ⟨0xFB4B, 0xFB4B, .spelled [0x5D5]⟩, ⟨0xFB4C, 0xFB4C, .spelled [0x5D1]⟩,
  ⟨0xFB4D, 0xFB4D, .spelled [0x5DB]⟩, ⟨0xFB4E, 0xFB4E, .spelled [0x5E4]⟩,
  ⟨0xFB4F, 0xFB4F, .spelled [0x5D0, 0x5DC]⟩, ⟨0xFB50, 0xFB51, .spelled [0x671]⟩,
  ⟨0xFB52, 0xFB55, .spelled [0x67B]⟩, ⟨0xFB56, 0xFB59, .spelled [0x67E]⟩,
  ⟨0xFB5A, 0xFB5D, .spelled [0x680]⟩, ⟨0xFB5E, 0xFB61, .spelled [0x67A]⟩,
  ⟨0xFB62, 0xFB65, .spelled [0x67F]⟩, ⟨0xFB66, 0xFB69, .spelled [0x679]⟩,
  ⟨0xFB6A, 0xFB6D, .spelled [0x6A4]⟩, ⟨0xFB6E, 0xFB71, .spelled [0x6A6]⟩,
  ⟨0xFB72, 0xFB75, .spelled [0x684]⟩, ⟨0xFB76, 0xFB79, .spelled [0x683]⟩,
  ⟨0xFB7A, 0xFB7D, .spelled [0x686]⟩, ⟨0xFB7E, 0xFB81, .spelled [0x687]⟩,
  ⟨0xFB82, 0xFB83, .spelled [0x68D]⟩, ⟨0xFB84, 0xFB85, .spelled [0x68C]⟩,
  ⟨0xFB86, 0xFB87, .spelled [0x68E]⟩, ⟨0xFB88, 0xFB89, .spelled [0x688]⟩,
  ⟨0xFB8A, 0xFB8B, .spelled [0x698]⟩, ⟨0xFB8C, 0xFB8D, .spelled [0x691]⟩,
  ⟨0xFB8E, 0xFB91, .spelled [0x6A9]⟩, ⟨0xFB92, 0xFB95, .spelled [0x6AF]⟩,
  ⟨0xFB96, 0xFB99, .spelled [0x6B3]⟩, ⟨0xFB9A, 0xFB9D, .spelled [0x6B1]⟩,
  ⟨0xFB9E, 0xFB9F, .spelled [0x6BA]⟩, ⟨0xFBA0, 0xFBA3, .spelled [0x6BB]⟩,
  ⟨0xFBA4, 0xFBA5, .spelled [0x6D5]⟩, ⟨0xFBA6, 0xFBA9, .spelled [0x6C1]⟩,
  ⟨0xFBAA, 0xFBAD, .spelled [0x6BE]⟩, ⟨0xFBAE, 0xFBB1, .spelled [0x6D2]⟩,
  ⟨0xFBD3, 0xFBD6, .spelled [0x6AD]⟩, ⟨0xFBD7, 0xFBD8, .spelled [0x6C7]⟩,
  ⟨0xFBD9, 0xFBDA, .spelled [0x6C6]⟩, ⟨0xFBDB, 0xFBDC, .spelled [0x6C8]⟩,
  ⟨0xFBDD, 0xFBDD, .spelled [0x6C7, 0x674]⟩, ⟨0xFBDE, 0xFBDF, .spelled [0x6CB]⟩,
  ⟨0xFBE0, 0xFBE1, .spelled [0x6C5]⟩, ⟨0xFBE2, 0xFBE3, .spelled [0x6C9]⟩,
  ⟨0xFBE4, 0xFBE7, .spelled [0x6D0]⟩, ⟨0xFBE8, 0xFBE9, .spelled [0x649]⟩,
  ⟨0xFBEA, 0xFBEB, .spelled [0x64A, 0x627]⟩, ⟨0xFBEC, 0xFBED, .spelled [0x64A, 0x6D5]⟩,
  ⟨0xFBEE, 0xFBEF, .spelled [0x64A, 0x648]⟩, ⟨0xFBF0, 0xFBF1, .spelled [0x64A, 0x6C7]⟩,
  ⟨0xFBF2, 0xFBF3, .spelled [0x64A, 0x6C6]⟩, ⟨0xFBF4, 0xFBF5, .spelled [0x64A, 0x6C8]⟩,
  ⟨0xFBF6, 0xFBF8, .spelled [0x64A, 0x6D0]⟩, ⟨0xFBF9, 0xFBFB, .spelled [0x64A, 0x649]⟩,
  ⟨0xFBFC, 0xFBFF, .spelled [0x6CC]⟩, ⟨0xFC00, 0xFC00, .spelled [0x64A, 0x62C]⟩,
  ⟨0xFC01, 0xFC01, .spelled [0x64A, 0x62D]⟩, ⟨0xFC02, 0xFC02, .spelled [0x64A, 0x645]⟩,
  ⟨0xFC03, 0xFC03, .spelled [0x64A, 0x649]⟩, ⟨0xFC04, 0xFC04, .spelled [0x64A, 0x64A]⟩,
  ⟨0xFC05, 0xFC05, .spelled [0x628, 0x62C]⟩, ⟨0xFC06, 0xFC06, .spelled [0x628, 0x62D]⟩,
  ⟨0xFC07, 0xFC07, .spelled [0x628, 0x62E]⟩, ⟨0xFC08, 0xFC08, .spelled [0x628, 0x645]⟩,
  ⟨0xFC09, 0xFC09, .spelled [0x628, 0x649]⟩, ⟨0xFC0A, 0xFC0A, .spelled [0x628, 0x64A]⟩,
  ⟨0xFC0B, 0xFC0B, .spelled [0x62A, 0x62C]⟩, ⟨0xFC0C, 0xFC0C, .spelled [0x62A, 0x62D]⟩,
  ⟨0xFC0D, 0xFC0D, .spelled [0x62A, 0x62E]⟩, ⟨0xFC0E, 0xFC0E, .spelled [0x62A, 0x645]⟩,
  ⟨0xFC0F, 0xFC0F, .spelled [0x62A, 0x649]⟩, ⟨0xFC10, 0xFC10, .spelled [0x62A, 0x64A]⟩,
  ⟨0xFC11, 0xFC11, .spelled [0x62B, 0x62C]⟩, ⟨0xFC12, 0xFC12, .spelled [0x62B, 0x645]⟩,
  ⟨0xFC13, 0xFC13, .spelled [0x62B, 0x649]⟩, ⟨0xFC14, 0xFC14, .spelled [0x62B, 0x64A]⟩,
  ⟨0xFC15, 0xFC15, .spelled [0x62C, 0x62D]⟩, ⟨0xFC16, 0xFC16, .spelled [0x62C, 0x645]⟩,
  ⟨0xFC17, 0xFC17, .spelled [0x62D, 0x62C]⟩, ⟨0xFC18, 0xFC18, .spelled [0x62D, 0x645]⟩,
  ⟨0xFC19, 0xFC19, .spelled [0x62E, 0x62C]⟩, ⟨0xFC1A, 0xFC1A, .spelled [0x62E, 0x62D]⟩,
  ⟨0xFC1B, 0xFC1B, .spelled [0x62E, 0x645]⟩, ⟨0xFC1C, 0xFC1C, .spelled [0x633, 0x62C]⟩,
  ⟨0xFC1D, 0xFC1D, .spelled [0x633, 0x62D]⟩, ⟨0xFC1E, 0xFC1E, .spelled [0x633, 0x62E]⟩,
  ⟨0xFC1F, 0xFC1F, .spelled [0x633, 0x645]⟩, ⟨0xFC20, 0xFC20, .spelled [0x635, 0x62D]⟩,
  ⟨0xFC21, 0xFC21, .spelled [0x635, 0x645]⟩, ⟨0xFC22, 0xFC22, .spelled [0x636, 0x62C]⟩,
  ⟨0xFC23, 0xFC23, .spelled [0x636, 0x62D]⟩, ⟨0xFC24, 0xFC24, .spelled [0x636, 0x62E]⟩,
  ⟨0xFC25, 0xFC25, .spelled [0x636, 0x645]⟩, ⟨0xFC26, 0xFC26, .spelled [0x637, 0x62D]⟩,
  ⟨0xFC27, 0xFC27, .spelled [0x637, 0x645]⟩, ⟨0xFC28, 0xFC28, .spelled [0x638, 0x645]⟩,
  ⟨0xFC29, 0xFC29, .spelled [0x639, 0x62C]⟩, ⟨0xFC2A, 0xFC2A, .spelled [0x639, 0x645]⟩,
  ⟨0xFC2B, 0xFC2B, .spelled [0x63A, 0x62C]⟩, ⟨0xFC2C, 0xFC2C, .spelled [0x63A, 0x645]⟩,
  ⟨0xFC2D, 0xFC2D, .spelled [0x641, 0x62C]⟩, ⟨0xFC2E, 0xFC2E, .spelled [0x641, 0x62D]⟩,
  ⟨0xFC2F, 0xFC2F, .spelled [0x641, 0x62E]⟩, ⟨0xFC30, 0xFC30, .spelled [0x641, 0x645]⟩,
  ⟨0xFC31, 0xFC31, .spelled [0x641, 0x649]⟩, ⟨0xFC32, 0xFC32, .spelled [0x641, 0x64A]⟩,
  ⟨0xFC33, 0xFC33, .spelled [0x642, 0x62D]⟩, ⟨0xFC34, 0xFC34, .spelled [0x642, 0x645]⟩,
  ⟨0xFC35, 0xFC35, .spelled [0x642, 0x649]⟩, ⟨0xFC36, 0xFC36, .spelled [0x642, 0x64A]⟩,
  ⟨0xFC37, 0xFC37, .spelled [0x643, 0x627]⟩, ⟨0xFC38, 0xFC38, .spelled [0x643, 0x62C]⟩,
  ⟨0xFC39, 0xFC39, .spelled [0x643, 0x62D]⟩, ⟨0xFC3A, 0xFC3A, .spelled [0x643, 0x62E]⟩,
  ⟨0xFC3B, 0xFC3B, .spelled [0x643, 0x644]⟩, ⟨0xFC3C, 0xFC3C, .spelled [0x643, 0x645]⟩,
  ⟨0xFC3D, 0xFC3D, .spelled [0x643, 0x649]⟩, ⟨0xFC3E, 0xFC3E, .spelled [0x643, 0x64A]⟩,
  ⟨0xFC3F, 0xFC3F, .spelled [0x644, 0x62C]⟩, ⟨0xFC40, 0xFC40, .spelled [0x644, 0x62D]⟩,
  ⟨0xFC41, 0xFC41, .spelled [0x644, 0x62E]⟩, ⟨0xFC42, 0xFC42, .spelled [0x644, 0x645]⟩,
  ⟨0xFC43, 0xFC43, .spelled [0x644, 0x649]⟩, ⟨0xFC44, 0xFC44, .spelled [0x644, 0x64A]⟩,
  ⟨0xFC45, 0xFC45, .spelled [0x645, 0x62C]⟩, ⟨0xFC46, 0xFC46, .spelled [0x645, 0x62D]⟩,
  ⟨0xFC47, 0xFC47, .spelled [0x645, 0x62E]⟩, ⟨0xFC48, 0xFC48, .spelled [0x645, 0x645]⟩,
  ⟨0xFC49, 0xFC49, .spelled [0x645, 0x649]⟩, ⟨0xFC4A, 0xFC4A, .spelled [0x645, 0x64A]⟩,
  ⟨0xFC4B, 0xFC4B, .spelled [0x646, 0x62C]⟩, ⟨0xFC4C, 0xFC4C, .spelled [0x646, 0x62D]⟩,
  ⟨0xFC4D, 0xFC4D, .spelled [0x646, 0x62E]⟩, ⟨0xFC4E, 0xFC4E, .spelled [0x646, 0x645]⟩,
  ⟨0xFC4F, 0xFC4F, .spelled [0x646, 0x649]⟩, ⟨0xFC50, 0xFC50, .spelled [0x646, 0x64A]⟩,
  ⟨0xFC51, 0xFC51, .spelled [0x647, 0x62C]⟩, ⟨0xFC52, 0xFC52, .spelled [0x647, 0x645]⟩,
  ⟨0xFC53, 0xFC53, .spelled [0x647, 0x649]⟩, ⟨0xFC54, 0xFC54, .spelled [0x647, 0x64A]⟩,
  ⟨0xFC55, 0xFC55, .spelled [0x64A, 0x62C]⟩, ⟨0xFC56, 0xFC56, .spelled [0x64A, 0x62D]⟩,
  ⟨0xFC57, 0xFC57, .spelled [0x64A, 0x62E]⟩, ⟨0xFC58, 0xFC58, .spelled [0x64A, 0x645]⟩,
  ⟨0xFC59, 0xFC59, .spelled [0x64A, 0x649]⟩, ⟨0xFC5A, 0xFC5A, .spelled [0x64A, 0x64A]⟩,
  ⟨0xFC5B, 0xFC5C, .moved 0x630⟩, ⟨0xFC5D, 0xFC5D, .spelled [0x649]⟩,
  ⟨0xFC5E, 0xFC63, .spelled [0x20]⟩, ⟨0xFC64, 0xFC64, .spelled [0x64A, 0x631]⟩,
  ⟨0xFC65, 0xFC65, .spelled [0x64A, 0x632]⟩, ⟨0xFC66, 0xFC66, .spelled [0x64A, 0x645]⟩,
  ⟨0xFC67, 0xFC67, .spelled [0x64A, 0x646]⟩, ⟨0xFC68, 0xFC68, .spelled [0x64A, 0x649]⟩,
  ⟨0xFC69, 0xFC69, .spelled [0x64A, 0x64A]⟩, ⟨0xFC6A, 0xFC6A, .spelled [0x628, 0x631]⟩,
  ⟨0xFC6B, 0xFC6B, .spelled [0x628, 0x632]⟩, ⟨0xFC6C, 0xFC6C, .spelled [0x628, 0x645]⟩,
  ⟨0xFC6D, 0xFC6D, .spelled [0x628, 0x646]⟩, ⟨0xFC6E, 0xFC6E, .spelled [0x628, 0x649]⟩,
  ⟨0xFC6F, 0xFC6F, .spelled [0x628, 0x64A]⟩, ⟨0xFC70, 0xFC70, .spelled [0x62A, 0x631]⟩,
  ⟨0xFC71, 0xFC71, .spelled [0x62A, 0x632]⟩, ⟨0xFC72, 0xFC72, .spelled [0x62A, 0x645]⟩,
  ⟨0xFC73, 0xFC73, .spelled [0x62A, 0x646]⟩, ⟨0xFC74, 0xFC74, .spelled [0x62A, 0x649]⟩,
  ⟨0xFC75, 0xFC75, .spelled [0x62A, 0x64A]⟩, ⟨0xFC76, 0xFC76, .spelled [0x62B, 0x631]⟩,
  ⟨0xFC77, 0xFC77, .spelled [0x62B, 0x632]⟩, ⟨0xFC78, 0xFC78, .spelled [0x62B, 0x645]⟩,
  ⟨0xFC79, 0xFC79, .spelled [0x62B, 0x646]⟩, ⟨0xFC7A, 0xFC7A, .spelled [0x62B, 0x649]⟩,
  ⟨0xFC7B, 0xFC7B, .spelled [0x62B, 0x64A]⟩, ⟨0xFC7C, 0xFC7C, .spelled [0x641, 0x649]⟩,
  ⟨0xFC7D, 0xFC7D, .spelled [0x641, 0x64A]⟩, ⟨0xFC7E, 0xFC7E, .spelled [0x642, 0x649]⟩,
  ⟨0xFC7F, 0xFC7F, .spelled [0x642, 0x64A]⟩, ⟨0xFC80, 0xFC80, .spelled [0x643, 0x627]⟩,
  ⟨0xFC81, 0xFC81, .spelled [0x643, 0x644]⟩, ⟨0xFC82, 0xFC82, .spelled [0x643, 0x645]⟩,
  ⟨0xFC83, 0xFC83, .spelled [0x643, 0x649]⟩, ⟨0xFC84, 0xFC84, .spelled [0x643, 0x64A]⟩,
  ⟨0xFC85, 0xFC85, .spelled [0x644, 0x645]⟩, ⟨0xFC86, 0xFC86, .spelled [0x644, 0x649]⟩,
  ⟨0xFC87, 0xFC87, .spelled [0x644, 0x64A]⟩, ⟨0xFC88, 0xFC88, .spelled [0x645, 0x627]⟩,
  ⟨0xFC89, 0xFC89, .spelled [0x645, 0x645]⟩, ⟨0xFC8A, 0xFC8A, .spelled [0x646, 0x631]⟩,
  ⟨0xFC8B, 0xFC8B, .spelled [0x646, 0x632]⟩, ⟨0xFC8C, 0xFC8C, .spelled [0x646, 0x645]⟩,
  ⟨0xFC8D, 0xFC8D, .spelled [0x646, 0x646]⟩, ⟨0xFC8E, 0xFC8E, .spelled [0x646, 0x649]⟩,
  ⟨0xFC8F, 0xFC8F, .spelled [0x646, 0x64A]⟩, ⟨0xFC90, 0xFC90, .spelled [0x649]⟩,
  ⟨0xFC91, 0xFC91, .spelled [0x64A, 0x631]⟩, ⟨0xFC92, 0xFC92, .spelled [0x64A, 0x632]⟩,
  ⟨0xFC93, 0xFC93, .spelled [0x64A, 0x645]⟩, ⟨0xFC94, 0xFC94, .spelled [0x64A, 0x646]⟩,
  ⟨0xFC95, 0xFC95, .spelled [0x64A, 0x649]⟩, ⟨0xFC96, 0xFC96, .spelled [0x64A, 0x64A]⟩,
  ⟨0xFC97, 0xFC97, .spelled [0x64A, 0x62C]⟩, ⟨0xFC98, 0xFC98, .spelled [0x64A, 0x62D]⟩,
  ⟨0xFC99, 0xFC99, .spelled [0x64A, 0x62E]⟩, ⟨0xFC9A, 0xFC9A, .spelled [0x64A, 0x645]⟩,
  ⟨0xFC9B, 0xFC9B, .spelled [0x64A, 0x647]⟩, ⟨0xFC9C, 0xFC9C, .spelled [0x628, 0x62C]⟩,
  ⟨0xFC9D, 0xFC9D, .spelled [0x628, 0x62D]⟩, ⟨0xFC9E, 0xFC9E, .spelled [0x628, 0x62E]⟩,
  ⟨0xFC9F, 0xFC9F, .spelled [0x628, 0x645]⟩, ⟨0xFCA0, 0xFCA0, .spelled [0x628, 0x647]⟩,
  ⟨0xFCA1, 0xFCA1, .spelled [0x62A, 0x62C]⟩, ⟨0xFCA2, 0xFCA2, .spelled [0x62A, 0x62D]⟩,
  ⟨0xFCA3, 0xFCA3, .spelled [0x62A, 0x62E]⟩, ⟨0xFCA4, 0xFCA4, .spelled [0x62A, 0x645]⟩,
  ⟨0xFCA5, 0xFCA5, .spelled [0x62A, 0x647]⟩, ⟨0xFCA6, 0xFCA6, .spelled [0x62B, 0x645]⟩,
  ⟨0xFCA7, 0xFCA7, .spelled [0x62C, 0x62D]⟩, ⟨0xFCA8, 0xFCA8, .spelled [0x62C, 0x645]⟩,
  ⟨0xFCA9, 0xFCA9, .spelled [0x62D, 0x62C]⟩, ⟨0xFCAA, 0xFCAA, .spelled [0x62D, 0x645]⟩,
  ⟨0xFCAB, 0xFCAB, .spelled [0x62E, 0x62C]⟩, ⟨0xFCAC, 0xFCAC, .spelled [0x62E, 0x645]⟩,
  ⟨0xFCAD, 0xFCAD, .spelled [0x633, 0x62C]⟩, ⟨0xFCAE, 0xFCAE, .spelled [0x633, 0x62D]⟩,
  ⟨0xFCAF, 0xFCAF, .spelled [0x633, 0x62E]⟩, ⟨0xFCB0, 0xFCB0, .spelled [0x633, 0x645]⟩,
  ⟨0xFCB1, 0xFCB1, .spelled [0x635, 0x62D]⟩, ⟨0xFCB2, 0xFCB2, .spelled [0x635, 0x62E]⟩,
  ⟨0xFCB3, 0xFCB3, .spelled [0x635, 0x645]⟩]

private def presentationRows2 : List (CodeRange Folding) := [
  ⟨0xFCB4, 0xFCB4, .spelled [0x636, 0x62C]⟩, ⟨0xFCB5, 0xFCB5, .spelled [0x636, 0x62D]⟩,
  ⟨0xFCB6, 0xFCB6, .spelled [0x636, 0x62E]⟩, ⟨0xFCB7, 0xFCB7, .spelled [0x636, 0x645]⟩,
  ⟨0xFCB8, 0xFCB8, .spelled [0x637, 0x62D]⟩, ⟨0xFCB9, 0xFCB9, .spelled [0x638, 0x645]⟩,
  ⟨0xFCBA, 0xFCBA, .spelled [0x639, 0x62C]⟩, ⟨0xFCBB, 0xFCBB, .spelled [0x639, 0x645]⟩,
  ⟨0xFCBC, 0xFCBC, .spelled [0x63A, 0x62C]⟩, ⟨0xFCBD, 0xFCBD, .spelled [0x63A, 0x645]⟩,
  ⟨0xFCBE, 0xFCBE, .spelled [0x641, 0x62C]⟩, ⟨0xFCBF, 0xFCBF, .spelled [0x641, 0x62D]⟩,
  ⟨0xFCC0, 0xFCC0, .spelled [0x641, 0x62E]⟩, ⟨0xFCC1, 0xFCC1, .spelled [0x641, 0x645]⟩,
  ⟨0xFCC2, 0xFCC2, .spelled [0x642, 0x62D]⟩, ⟨0xFCC3, 0xFCC3, .spelled [0x642, 0x645]⟩,
  ⟨0xFCC4, 0xFCC4, .spelled [0x643, 0x62C]⟩, ⟨0xFCC5, 0xFCC5, .spelled [0x643, 0x62D]⟩,
  ⟨0xFCC6, 0xFCC6, .spelled [0x643, 0x62E]⟩, ⟨0xFCC7, 0xFCC7, .spelled [0x643, 0x644]⟩,
  ⟨0xFCC8, 0xFCC8, .spelled [0x643, 0x645]⟩, ⟨0xFCC9, 0xFCC9, .spelled [0x644, 0x62C]⟩,
  ⟨0xFCCA, 0xFCCA, .spelled [0x644, 0x62D]⟩, ⟨0xFCCB, 0xFCCB, .spelled [0x644, 0x62E]⟩,
  ⟨0xFCCC, 0xFCCC, .spelled [0x644, 0x645]⟩, ⟨0xFCCD, 0xFCCD, .spelled [0x644, 0x647]⟩,
  ⟨0xFCCE, 0xFCCE, .spelled [0x645, 0x62C]⟩, ⟨0xFCCF, 0xFCCF, .spelled [0x645, 0x62D]⟩,
  ⟨0xFCD0, 0xFCD0, .spelled [0x645, 0x62E]⟩, ⟨0xFCD1, 0xFCD1, .spelled [0x645, 0x645]⟩,
  ⟨0xFCD2, 0xFCD2, .spelled [0x646, 0x62C]⟩, ⟨0xFCD3, 0xFCD3, .spelled [0x646, 0x62D]⟩,
  ⟨0xFCD4, 0xFCD4, .spelled [0x646, 0x62E]⟩, ⟨0xFCD5, 0xFCD5, .spelled [0x646, 0x645]⟩,
  ⟨0xFCD6, 0xFCD6, .spelled [0x646, 0x647]⟩, ⟨0xFCD7, 0xFCD7, .spelled [0x647, 0x62C]⟩,
  ⟨0xFCD8, 0xFCD8, .spelled [0x647, 0x645]⟩, ⟨0xFCD9, 0xFCD9, .spelled [0x647]⟩,
  ⟨0xFCDA, 0xFCDA, .spelled [0x64A, 0x62C]⟩, ⟨0xFCDB, 0xFCDB, .spelled [0x64A, 0x62D]⟩,
  ⟨0xFCDC, 0xFCDC, .spelled [0x64A, 0x62E]⟩, ⟨0xFCDD, 0xFCDD, .spelled [0x64A, 0x645]⟩,
  ⟨0xFCDE, 0xFCDE, .spelled [0x64A, 0x647]⟩, ⟨0xFCDF, 0xFCDF, .spelled [0x64A, 0x645]⟩,
  ⟨0xFCE0, 0xFCE0, .spelled [0x64A, 0x647]⟩, ⟨0xFCE1, 0xFCE1, .spelled [0x628, 0x645]⟩,
  ⟨0xFCE2, 0xFCE2, .spelled [0x628, 0x647]⟩, ⟨0xFCE3, 0xFCE3, .spelled [0x62A, 0x645]⟩,
  ⟨0xFCE4, 0xFCE4, .spelled [0x62A, 0x647]⟩, ⟨0xFCE5, 0xFCE5, .spelled [0x62B, 0x645]⟩,
  ⟨0xFCE6, 0xFCE6, .spelled [0x62B, 0x647]⟩, ⟨0xFCE7, 0xFCE7, .spelled [0x633, 0x645]⟩,
  ⟨0xFCE8, 0xFCE8, .spelled [0x633, 0x647]⟩, ⟨0xFCE9, 0xFCE9, .spelled [0x634, 0x645]⟩,
  ⟨0xFCEA, 0xFCEA, .spelled [0x634, 0x647]⟩, ⟨0xFCEB, 0xFCEB, .spelled [0x643, 0x644]⟩,
  ⟨0xFCEC, 0xFCEC, .spelled [0x643, 0x645]⟩, ⟨0xFCED, 0xFCED, .spelled [0x644, 0x645]⟩,
  ⟨0xFCEE, 0xFCEE, .spelled [0x646, 0x645]⟩, ⟨0xFCEF, 0xFCEF, .spelled [0x646, 0x647]⟩,
  ⟨0xFCF0, 0xFCF0, .spelled [0x64A, 0x645]⟩, ⟨0xFCF1, 0xFCF1, .spelled [0x64A, 0x647]⟩,
  ⟨0xFCF2, 0xFCF4, .spelled [0x640]⟩, ⟨0xFCF5, 0xFCF5, .spelled [0x637, 0x649]⟩,
  ⟨0xFCF6, 0xFCF6, .spelled [0x637, 0x64A]⟩, ⟨0xFCF7, 0xFCF7, .spelled [0x639, 0x649]⟩,
  ⟨0xFCF8, 0xFCF8, .spelled [0x639, 0x64A]⟩, ⟨0xFCF9, 0xFCF9, .spelled [0x63A, 0x649]⟩,
  ⟨0xFCFA, 0xFCFA, .spelled [0x63A, 0x64A]⟩, ⟨0xFCFB, 0xFCFB, .spelled [0x633, 0x649]⟩,
  ⟨0xFCFC, 0xFCFC, .spelled [0x633, 0x64A]⟩, ⟨0xFCFD, 0xFCFD, .spelled [0x634, 0x649]⟩,
  ⟨0xFCFE, 0xFCFE, .spelled [0x634, 0x64A]⟩, ⟨0xFCFF, 0xFCFF, .spelled [0x62D, 0x649]⟩,
  ⟨0xFD00, 0xFD00, .spelled [0x62D, 0x64A]⟩, ⟨0xFD01, 0xFD01, .spelled [0x62C, 0x649]⟩,
  ⟨0xFD02, 0xFD02, .spelled [0x62C, 0x64A]⟩, ⟨0xFD03, 0xFD03, .spelled [0x62E, 0x649]⟩,
  ⟨0xFD04, 0xFD04, .spelled [0x62E, 0x64A]⟩, ⟨0xFD05, 0xFD05, .spelled [0x635, 0x649]⟩,
  ⟨0xFD06, 0xFD06, .spelled [0x635, 0x64A]⟩, ⟨0xFD07, 0xFD07, .spelled [0x636, 0x649]⟩,
  ⟨0xFD08, 0xFD08, .spelled [0x636, 0x64A]⟩, ⟨0xFD09, 0xFD09, .spelled [0x634, 0x62C]⟩,
  ⟨0xFD0A, 0xFD0A, .spelled [0x634, 0x62D]⟩, ⟨0xFD0B, 0xFD0B, .spelled [0x634, 0x62E]⟩,
  ⟨0xFD0C, 0xFD0C, .spelled [0x634, 0x645]⟩, ⟨0xFD0D, 0xFD0D, .spelled [0x634, 0x631]⟩,
  ⟨0xFD0E, 0xFD0E, .spelled [0x633, 0x631]⟩, ⟨0xFD0F, 0xFD0F, .spelled [0x635, 0x631]⟩,
  ⟨0xFD10, 0xFD10, .spelled [0x636, 0x631]⟩, ⟨0xFD11, 0xFD11, .spelled [0x637, 0x649]⟩,
  ⟨0xFD12, 0xFD12, .spelled [0x637, 0x64A]⟩, ⟨0xFD13, 0xFD13, .spelled [0x639, 0x649]⟩,
  ⟨0xFD14, 0xFD14, .spelled [0x639, 0x64A]⟩, ⟨0xFD15, 0xFD15, .spelled [0x63A, 0x649]⟩,
  ⟨0xFD16, 0xFD16, .spelled [0x63A, 0x64A]⟩, ⟨0xFD17, 0xFD17, .spelled [0x633, 0x649]⟩,
  ⟨0xFD18, 0xFD18, .spelled [0x633, 0x64A]⟩, ⟨0xFD19, 0xFD19, .spelled [0x634, 0x649]⟩,
  ⟨0xFD1A, 0xFD1A, .spelled [0x634, 0x64A]⟩, ⟨0xFD1B, 0xFD1B, .spelled [0x62D, 0x649]⟩,
  ⟨0xFD1C, 0xFD1C, .spelled [0x62D, 0x64A]⟩, ⟨0xFD1D, 0xFD1D, .spelled [0x62C, 0x649]⟩,
  ⟨0xFD1E, 0xFD1E, .spelled [0x62C, 0x64A]⟩, ⟨0xFD1F, 0xFD1F, .spelled [0x62E, 0x649]⟩,
  ⟨0xFD20, 0xFD20, .spelled [0x62E, 0x64A]⟩, ⟨0xFD21, 0xFD21, .spelled [0x635, 0x649]⟩,
  ⟨0xFD22, 0xFD22, .spelled [0x635, 0x64A]⟩, ⟨0xFD23, 0xFD23, .spelled [0x636, 0x649]⟩,
  ⟨0xFD24, 0xFD24, .spelled [0x636, 0x64A]⟩, ⟨0xFD25, 0xFD25, .spelled [0x634, 0x62C]⟩,
  ⟨0xFD26, 0xFD26, .spelled [0x634, 0x62D]⟩, ⟨0xFD27, 0xFD27, .spelled [0x634, 0x62E]⟩,
  ⟨0xFD28, 0xFD28, .spelled [0x634, 0x645]⟩, ⟨0xFD29, 0xFD29, .spelled [0x634, 0x631]⟩,
  ⟨0xFD2A, 0xFD2A, .spelled [0x633, 0x631]⟩, ⟨0xFD2B, 0xFD2B, .spelled [0x635, 0x631]⟩,
  ⟨0xFD2C, 0xFD2C, .spelled [0x636, 0x631]⟩, ⟨0xFD2D, 0xFD2D, .spelled [0x634, 0x62C]⟩,
  ⟨0xFD2E, 0xFD2E, .spelled [0x634, 0x62D]⟩, ⟨0xFD2F, 0xFD2F, .spelled [0x634, 0x62E]⟩,
  ⟨0xFD30, 0xFD30, .spelled [0x634, 0x645]⟩, ⟨0xFD31, 0xFD31, .spelled [0x633, 0x647]⟩,
  ⟨0xFD32, 0xFD32, .spelled [0x634, 0x647]⟩, ⟨0xFD33, 0xFD33, .spelled [0x637, 0x645]⟩,
  ⟨0xFD34, 0xFD34, .spelled [0x633, 0x62C]⟩, ⟨0xFD35, 0xFD35, .spelled [0x633, 0x62D]⟩,
  ⟨0xFD36, 0xFD36, .spelled [0x633, 0x62E]⟩, ⟨0xFD37, 0xFD37, .spelled [0x634, 0x62C]⟩,
  ⟨0xFD38, 0xFD38, .spelled [0x634, 0x62D]⟩, ⟨0xFD39, 0xFD39, .spelled [0x634, 0x62E]⟩,
  ⟨0xFD3A, 0xFD3A, .spelled [0x637, 0x645]⟩, ⟨0xFD3B, 0xFD3B, .spelled [0x638, 0x645]⟩,
  ⟨0xFD3C, 0xFD3D, .spelled [0x627]⟩, ⟨0xFD50, 0xFD50, .spelled [0x62A, 0x62C, 0x645]⟩,
  ⟨0xFD51, 0xFD52, .spelled [0x62A, 0x62D, 0x62C]⟩,
  ⟨0xFD53, 0xFD53, .spelled [0x62A, 0x62D, 0x645]⟩,
  ⟨0xFD54, 0xFD54, .spelled [0x62A, 0x62E, 0x645]⟩,
  ⟨0xFD55, 0xFD55, .spelled [0x62A, 0x645, 0x62C]⟩,
  ⟨0xFD56, 0xFD56, .spelled [0x62A, 0x645, 0x62D]⟩,
  ⟨0xFD57, 0xFD57, .spelled [0x62A, 0x645, 0x62E]⟩,
  ⟨0xFD58, 0xFD59, .spelled [0x62C, 0x645, 0x62D]⟩,
  ⟨0xFD5A, 0xFD5A, .spelled [0x62D, 0x645, 0x64A]⟩,
  ⟨0xFD5B, 0xFD5B, .spelled [0x62D, 0x645, 0x649]⟩,
  ⟨0xFD5C, 0xFD5C, .spelled [0x633, 0x62D, 0x62C]⟩,
  ⟨0xFD5D, 0xFD5D, .spelled [0x633, 0x62C, 0x62D]⟩,
  ⟨0xFD5E, 0xFD5E, .spelled [0x633, 0x62C, 0x649]⟩,
  ⟨0xFD5F, 0xFD60, .spelled [0x633, 0x645, 0x62D]⟩,
  ⟨0xFD61, 0xFD61, .spelled [0x633, 0x645, 0x62C]⟩,
  ⟨0xFD62, 0xFD63, .spelled [0x633, 0x645, 0x645]⟩,
  ⟨0xFD64, 0xFD65, .spelled [0x635, 0x62D, 0x62D]⟩,
  ⟨0xFD66, 0xFD66, .spelled [0x635, 0x645, 0x645]⟩,
  ⟨0xFD67, 0xFD68, .spelled [0x634, 0x62D, 0x645]⟩,
  ⟨0xFD69, 0xFD69, .spelled [0x634, 0x62C, 0x64A]⟩,
  ⟨0xFD6A, 0xFD6B, .spelled [0x634, 0x645, 0x62E]⟩,
  ⟨0xFD6C, 0xFD6D, .spelled [0x634, 0x645, 0x645]⟩,
  ⟨0xFD6E, 0xFD6E, .spelled [0x636, 0x62D, 0x649]⟩,
  ⟨0xFD6F, 0xFD70, .spelled [0x636, 0x62E, 0x645]⟩,
  ⟨0xFD71, 0xFD72, .spelled [0x637, 0x645, 0x62D]⟩,
  ⟨0xFD73, 0xFD73, .spelled [0x637, 0x645, 0x645]⟩,
  ⟨0xFD74, 0xFD74, .spelled [0x637, 0x645, 0x64A]⟩,
  ⟨0xFD75, 0xFD75, .spelled [0x639, 0x62C, 0x645]⟩,
  ⟨0xFD76, 0xFD77, .spelled [0x639, 0x645, 0x645]⟩,
  ⟨0xFD78, 0xFD78, .spelled [0x639, 0x645, 0x649]⟩,
  ⟨0xFD79, 0xFD79, .spelled [0x63A, 0x645, 0x645]⟩,
  ⟨0xFD7A, 0xFD7A, .spelled [0x63A, 0x645, 0x64A]⟩,
  ⟨0xFD7B, 0xFD7B, .spelled [0x63A, 0x645, 0x649]⟩,
  ⟨0xFD7C, 0xFD7D, .spelled [0x641, 0x62E, 0x645]⟩,
  ⟨0xFD7E, 0xFD7E, .spelled [0x642, 0x645, 0x62D]⟩,
  ⟨0xFD7F, 0xFD7F, .spelled [0x642, 0x645, 0x645]⟩,
  ⟨0xFD80, 0xFD80, .spelled [0x644, 0x62D, 0x645]⟩,
  ⟨0xFD81, 0xFD81, .spelled [0x644, 0x62D, 0x64A]⟩,
  ⟨0xFD82, 0xFD82, .spelled [0x644, 0x62D, 0x649]⟩,
  ⟨0xFD83, 0xFD84, .spelled [0x644, 0x62C, 0x62C]⟩,
  ⟨0xFD85, 0xFD86, .spelled [0x644, 0x62E, 0x645]⟩,
  ⟨0xFD87, 0xFD88, .spelled [0x644, 0x645, 0x62D]⟩,
  ⟨0xFD89, 0xFD89, .spelled [0x645, 0x62D, 0x62C]⟩,
  ⟨0xFD8A, 0xFD8A, .spelled [0x645, 0x62D, 0x645]⟩,
  ⟨0xFD8B, 0xFD8B, .spelled [0x645, 0x62D, 0x64A]⟩,
  ⟨0xFD8C, 0xFD8C, .spelled [0x645, 0x62C, 0x62D]⟩,
  ⟨0xFD8D, 0xFD8D, .spelled [0x645, 0x62C, 0x645]⟩,
  ⟨0xFD8E, 0xFD8E, .spelled [0x645, 0x62E, 0x62C]⟩,
  ⟨0xFD8F, 0xFD8F, .spelled [0x645, 0x62E, 0x645]⟩,
  ⟨0xFD92, 0xFD92, .spelled [0x645, 0x62C, 0x62E]⟩,
  ⟨0xFD93, 0xFD93, .spelled [0x647, 0x645, 0x62C]⟩,
  ⟨0xFD94, 0xFD94, .spelled [0x647, 0x645, 0x645]⟩,
  ⟨0xFD95, 0xFD95, .spelled [0x646, 0x62D, 0x645]⟩,
  ⟨0xFD96, 0xFD96, .spelled [0x646, 0x62D, 0x649]⟩,
  ⟨0xFD97, 0xFD98, .spelled [0x646, 0x62C, 0x645]⟩,
  ⟨0xFD99, 0xFD99, .spelled [0x646, 0x62C, 0x649]⟩,
  ⟨0xFD9A, 0xFD9A, .spelled [0x646, 0x645, 0x64A]⟩,
  ⟨0xFD9B, 0xFD9B, .spelled [0x646, 0x645, 0x649]⟩,
  ⟨0xFD9C, 0xFD9D, .spelled [0x64A, 0x645, 0x645]⟩,
  ⟨0xFD9E, 0xFD9E, .spelled [0x628, 0x62E, 0x64A]⟩,
  ⟨0xFD9F, 0xFD9F, .spelled [0x62A, 0x62C, 0x64A]⟩,
  ⟨0xFDA0, 0xFDA0, .spelled [0x62A, 0x62C, 0x649]⟩,
  ⟨0xFDA1, 0xFDA1, .spelled [0x62A, 0x62E, 0x64A]⟩,
  ⟨0xFDA2, 0xFDA2, .spelled [0x62A, 0x62E, 0x649]⟩,
  ⟨0xFDA3, 0xFDA3, .spelled [0x62A, 0x645, 0x64A]⟩,
  ⟨0xFDA4, 0xFDA4, .spelled [0x62A, 0x645, 0x649]⟩,
  ⟨0xFDA5, 0xFDA5, .spelled [0x62C, 0x645, 0x64A]⟩,
  ⟨0xFDA6, 0xFDA6, .spelled [0x62C, 0x62D, 0x649]⟩,
  ⟨0xFDA7, 0xFDA7, .spelled [0x62C, 0x645, 0x649]⟩,
  ⟨0xFDA8, 0xFDA8, .spelled [0x633, 0x62E, 0x649]⟩,
  ⟨0xFDA9, 0xFDA9, .spelled [0x635, 0x62D, 0x64A]⟩,
  ⟨0xFDAA, 0xFDAA, .spelled [0x634, 0x62D, 0x64A]⟩,
  ⟨0xFDAB, 0xFDAB, .spelled [0x636, 0x62D, 0x64A]⟩,
  ⟨0xFDAC, 0xFDAC, .spelled [0x644, 0x62C, 0x64A]⟩,
  ⟨0xFDAD, 0xFDAD, .spelled [0x644, 0x645, 0x64A]⟩,
  ⟨0xFDAE, 0xFDAE, .spelled [0x64A, 0x62D, 0x64A]⟩,
  ⟨0xFDAF, 0xFDAF, .spelled [0x64A, 0x62C, 0x64A]⟩,
  ⟨0xFDB0, 0xFDB0, .spelled [0x64A, 0x645, 0x64A]⟩,
  ⟨0xFDB1, 0xFDB1, .spelled [0x645, 0x645, 0x64A]⟩,
  ⟨0xFDB2, 0xFDB2, .spelled [0x642, 0x645, 0x64A]⟩,
  ⟨0xFDB3, 0xFDB3, .spelled [0x646, 0x62D, 0x64A]⟩,
  ⟨0xFDB4, 0xFDB4, .spelled [0x642, 0x645, 0x62D]⟩,
  ⟨0xFDB5, 0xFDB5, .spelled [0x644, 0x62D, 0x645]⟩,
  ⟨0xFDB6, 0xFDB6, .spelled [0x639, 0x645, 0x64A]⟩,
  ⟨0xFDB7, 0xFDB7, .spelled [0x643, 0x645, 0x64A]⟩,
  ⟨0xFDB8, 0xFDB8, .spelled [0x646, 0x62C, 0x62D]⟩,
  ⟨0xFDB9, 0xFDB9, .spelled [0x645, 0x62E, 0x64A]⟩,
  ⟨0xFDBA, 0xFDBA, .spelled [0x644, 0x62C, 0x645]⟩,
  ⟨0xFDBB, 0xFDBB, .spelled [0x643, 0x645, 0x645]⟩,
  ⟨0xFDBC, 0xFDBC, .spelled [0x644, 0x62C, 0x645]⟩,
  ⟨0xFDBD, 0xFDBD, .spelled [0x646, 0x62C, 0x62D]⟩,
  ⟨0xFDBE, 0xFDBE, .spelled [0x62C, 0x62D, 0x64A]⟩,
  ⟨0xFDBF, 0xFDBF, .spelled [0x62D, 0x62C, 0x64A]⟩,
  ⟨0xFDC0, 0xFDC0, .spelled [0x645, 0x62C, 0x64A]⟩,
  ⟨0xFDC1, 0xFDC1, .spelled [0x641, 0x645, 0x64A]⟩,
  ⟨0xFDC2, 0xFDC2, .spelled [0x628, 0x62D, 0x64A]⟩,
  ⟨0xFDC3, 0xFDC3, .spelled [0x643, 0x645, 0x645]⟩,
  ⟨0xFDC4, 0xFDC4, .spelled [0x639, 0x62C, 0x645]⟩,
  ⟨0xFDC5, 0xFDC5, .spelled [0x635, 0x645, 0x645]⟩,
  ⟨0xFDC6, 0xFDC6, .spelled [0x633, 0x62E, 0x64A]⟩,
  ⟨0xFDC7, 0xFDC7, .spelled [0x646, 0x62C, 0x64A]⟩,
  ⟨0xFDF0, 0xFDF0, .spelled [0x635, 0x644, 0x6D2]⟩,
  ⟨0xFDF1, 0xFDF1, .spelled [0x642, 0x644, 0x6D2]⟩,
  ⟨0xFDF2, 0xFDF2, .spelled [0x627, 0x644, 0x644, 0x647]⟩,
  ⟨0xFDF3, 0xFDF3, .spelled [0x627, 0x643, 0x628, 0x631]⟩,
  ⟨0xFDF4, 0xFDF4, .spelled [0x645, 0x62D, 0x645, 0x62F]⟩,
  ⟨0xFDF5, 0xFDF5, .spelled [0x635, 0x644, 0x639, 0x645]⟩,
  ⟨0xFDF6, 0xFDF6, .spelled [0x631, 0x633, 0x648, 0x644]⟩,
  ⟨0xFDF7, 0xFDF7, .spelled [0x639, 0x644, 0x64A, 0x647]⟩,
  ⟨0xFDF8, 0xFDF8, .spelled [0x648, 0x633, 0x644, 0x645]⟩,
  ⟨0xFDF9, 0xFDF9, .spelled [0x635, 0x644, 0x649]⟩,
  ⟨0xFDFA, 0xFDFA, .spelled [0x635, 0x644, 0x649, 0x20, 0x627, 0x644, 0x644, 0x647, 0x20, 0x639,
    0x644, 0x64A, 0x647, 0x20, 0x648, 0x633, 0x644, 0x645]⟩,
  ⟨0xFDFB, 0xFDFB, .spelled [0x62C, 0x644, 0x20, 0x62C, 0x644, 0x627, 0x644, 0x647]⟩,
  ⟨0xFDFC, 0xFDFC, .spelled [0x631, 0x6CC, 0x627, 0x644]⟩, ⟨0xFE00, 0xFE0F, .spelled []⟩,
  ⟨0xFE10, 0xFE10, .spelled [0x2C]⟩, ⟨0xFE11, 0xFE12, .moved 0x3001⟩, ⟨0xFE13, 0xFE14, .moved 0x3A⟩,
  ⟨0xFE15, 0xFE15, .spelled [0x21]⟩, ⟨0xFE16, 0xFE16, .spelled [0x3F]⟩,
  ⟨0xFE17, 0xFE18, .moved 0x3016⟩]

private def presentationRows3 : List (CodeRange Folding) := [
  ⟨0xFE19, 0xFE19, .spelled [0x2E, 0x2E, 0x2E]⟩, ⟨0xFE20, 0xFE2F, .spelled []⟩,
  ⟨0xFE30, 0xFE30, .spelled [0x2E, 0x2E]⟩, ⟨0xFE31, 0xFE31, .spelled [0x2014]⟩,
  ⟨0xFE32, 0xFE32, .spelled [0x2013]⟩, ⟨0xFE33, 0xFE34, .spelled [0x5F]⟩,
  ⟨0xFE35, 0xFE36, .moved 0x28⟩, ⟨0xFE37, 0xFE37, .spelled [0x7B]⟩,
  ⟨0xFE38, 0xFE38, .spelled [0x7D]⟩, ⟨0xFE39, 0xFE3A, .moved 0x3014⟩,
  ⟨0xFE3B, 0xFE3C, .moved 0x3010⟩, ⟨0xFE3D, 0xFE3E, .moved 0x300A⟩, ⟨0xFE3F, 0xFE40, .moved 0x3008⟩,
  ⟨0xFE41, 0xFE44, .moved 0x300C⟩, ⟨0xFE47, 0xFE47, .spelled [0x5B]⟩,
  ⟨0xFE48, 0xFE48, .spelled [0x5D]⟩, ⟨0xFE49, 0xFE4C, .spelled [0x20]⟩,
  ⟨0xFE4D, 0xFE4F, .spelled [0x5F]⟩, ⟨0xFE50, 0xFE50, .spelled [0x2C]⟩,
  ⟨0xFE51, 0xFE51, .spelled [0x3001]⟩, ⟨0xFE52, 0xFE52, .spelled [0x2E]⟩,
  ⟨0xFE54, 0xFE54, .spelled [0x3B]⟩, ⟨0xFE55, 0xFE55, .spelled [0x3A]⟩,
  ⟨0xFE56, 0xFE56, .spelled [0x3F]⟩, ⟨0xFE57, 0xFE57, .spelled [0x21]⟩,
  ⟨0xFE58, 0xFE58, .spelled [0x2014]⟩, ⟨0xFE59, 0xFE5A, .moved 0x28⟩,
  ⟨0xFE5B, 0xFE5B, .spelled [0x7B]⟩, ⟨0xFE5C, 0xFE5C, .spelled [0x7D]⟩,
  ⟨0xFE5D, 0xFE5E, .moved 0x3014⟩, ⟨0xFE5F, 0xFE5F, .spelled [0x23]⟩,
  ⟨0xFE60, 0xFE60, .spelled [0x26]⟩, ⟨0xFE61, 0xFE62, .moved 0x2A⟩,
  ⟨0xFE63, 0xFE63, .spelled [0x2D]⟩, ⟨0xFE64, 0xFE64, .spelled [0x3C]⟩,
  ⟨0xFE65, 0xFE65, .spelled [0x3E]⟩, ⟨0xFE66, 0xFE66, .spelled [0x3D]⟩,
  ⟨0xFE68, 0xFE68, .spelled [0x5C]⟩, ⟨0xFE69, 0xFE6A, .moved 0x24⟩,
  ⟨0xFE6B, 0xFE6B, .spelled [0x40]⟩, ⟨0xFE70, 0xFE70, .spelled [0x20]⟩,
  ⟨0xFE71, 0xFE71, .spelled [0x640]⟩, ⟨0xFE72, 0xFE72, .spelled [0x20]⟩,
  ⟨0xFE74, 0xFE74, .spelled [0x20]⟩, ⟨0xFE76, 0xFE76, .spelled [0x20]⟩,
  ⟨0xFE77, 0xFE77, .spelled [0x640]⟩, ⟨0xFE78, 0xFE78, .spelled [0x20]⟩,
  ⟨0xFE79, 0xFE79, .spelled [0x640]⟩, ⟨0xFE7A, 0xFE7A, .spelled [0x20]⟩,
  ⟨0xFE7B, 0xFE7B, .spelled [0x640]⟩, ⟨0xFE7C, 0xFE7C, .spelled [0x20]⟩,
  ⟨0xFE7D, 0xFE7D, .spelled [0x640]⟩, ⟨0xFE7E, 0xFE7E, .spelled [0x20]⟩,
  ⟨0xFE7F, 0xFE7F, .spelled [0x640]⟩, ⟨0xFE80, 0xFE80, .spelled [0x621]⟩,
  ⟨0xFE81, 0xFE84, .spelled [0x627]⟩, ⟨0xFE85, 0xFE86, .spelled [0x648]⟩,
  ⟨0xFE87, 0xFE88, .spelled [0x627]⟩, ⟨0xFE89, 0xFE8C, .spelled [0x64A]⟩,
  ⟨0xFE8D, 0xFE8E, .spelled [0x627]⟩, ⟨0xFE8F, 0xFE92, .spelled [0x628]⟩,
  ⟨0xFE93, 0xFE94, .spelled [0x629]⟩, ⟨0xFE95, 0xFE98, .spelled [0x62A]⟩,
  ⟨0xFE99, 0xFE9C, .spelled [0x62B]⟩, ⟨0xFE9D, 0xFEA0, .spelled [0x62C]⟩,
  ⟨0xFEA1, 0xFEA4, .spelled [0x62D]⟩, ⟨0xFEA5, 0xFEA8, .spelled [0x62E]⟩,
  ⟨0xFEA9, 0xFEAA, .spelled [0x62F]⟩, ⟨0xFEAB, 0xFEAC, .spelled [0x630]⟩,
  ⟨0xFEAD, 0xFEAE, .spelled [0x631]⟩, ⟨0xFEAF, 0xFEB0, .spelled [0x632]⟩,
  ⟨0xFEB1, 0xFEB4, .spelled [0x633]⟩, ⟨0xFEB5, 0xFEB8, .spelled [0x634]⟩,
  ⟨0xFEB9, 0xFEBC, .spelled [0x635]⟩, ⟨0xFEBD, 0xFEC0, .spelled [0x636]⟩,
  ⟨0xFEC1, 0xFEC4, .spelled [0x637]⟩, ⟨0xFEC5, 0xFEC8, .spelled [0x638]⟩,
  ⟨0xFEC9, 0xFECC, .spelled [0x639]⟩, ⟨0xFECD, 0xFED0, .spelled [0x63A]⟩,
  ⟨0xFED1, 0xFED4, .spelled [0x641]⟩, ⟨0xFED5, 0xFED8, .spelled [0x642]⟩,
  ⟨0xFED9, 0xFEDC, .spelled [0x643]⟩, ⟨0xFEDD, 0xFEE0, .spelled [0x644]⟩,
  ⟨0xFEE1, 0xFEE4, .spelled [0x645]⟩, ⟨0xFEE5, 0xFEE8, .spelled [0x646]⟩,
  ⟨0xFEE9, 0xFEEC, .spelled [0x647]⟩, ⟨0xFEED, 0xFEEE, .spelled [0x648]⟩,
  ⟨0xFEEF, 0xFEF0, .spelled [0x649]⟩, ⟨0xFEF1, 0xFEF4, .spelled [0x64A]⟩,
  ⟨0xFEF5, 0xFEFC, .spelled [0x644, 0x627]⟩, ⟨0xFF01, 0xFF20, .moved 0x21⟩,
  ⟨0xFF21, 0xFF3A, .moved 0x61⟩, ⟨0xFF3B, 0xFF5E, .moved 0x5B⟩, ⟨0xFF5F, 0xFF60, .moved 0x2985⟩,
  ⟨0xFF61, 0xFF61, .spelled [0x3002]⟩, ⟨0xFF62, 0xFF63, .moved 0x300C⟩,
  ⟨0xFF64, 0xFF64, .spelled [0x3001]⟩, ⟨0xFF65, 0xFF65, .spelled [0x30FB]⟩,
  ⟨0xFF66, 0xFF66, .spelled [0x30F2]⟩, ⟨0xFF67, 0xFF67, .spelled [0x30A1]⟩,
  ⟨0xFF68, 0xFF68, .spelled [0x30A3]⟩, ⟨0xFF69, 0xFF69, .spelled [0x30A5]⟩,
  ⟨0xFF6A, 0xFF6A, .spelled [0x30A7]⟩, ⟨0xFF6B, 0xFF6B, .spelled [0x30A9]⟩,
  ⟨0xFF6C, 0xFF6C, .spelled [0x30E3]⟩, ⟨0xFF6D, 0xFF6D, .spelled [0x30E5]⟩,
  ⟨0xFF6E, 0xFF6E, .spelled [0x30E7]⟩, ⟨0xFF6F, 0xFF6F, .spelled [0x30C3]⟩,
  ⟨0xFF70, 0xFF70, .spelled [0x30FC]⟩, ⟨0xFF71, 0xFF71, .spelled [0x30A2]⟩,
  ⟨0xFF72, 0xFF72, .spelled [0x30A4]⟩, ⟨0xFF73, 0xFF73, .spelled [0x30A6]⟩,
  ⟨0xFF74, 0xFF74, .spelled [0x30A8]⟩, ⟨0xFF75, 0xFF76, .moved 0x30AA⟩,
  ⟨0xFF77, 0xFF77, .spelled [0x30AD]⟩, ⟨0xFF78, 0xFF78, .spelled [0x30AF]⟩,
  ⟨0xFF79, 0xFF79, .spelled [0x30B1]⟩, ⟨0xFF7A, 0xFF7A, .spelled [0x30B3]⟩,
  ⟨0xFF7B, 0xFF7B, .spelled [0x30B5]⟩, ⟨0xFF7C, 0xFF7C, .spelled [0x30B7]⟩,
  ⟨0xFF7D, 0xFF7D, .spelled [0x30B9]⟩, ⟨0xFF7E, 0xFF7E, .spelled [0x30BB]⟩,
  ⟨0xFF7F, 0xFF7F, .spelled [0x30BD]⟩, ⟨0xFF80, 0xFF80, .spelled [0x30BF]⟩,
  ⟨0xFF81, 0xFF81, .spelled [0x30C1]⟩, ⟨0xFF82, 0xFF82, .spelled [0x30C4]⟩,
  ⟨0xFF83, 0xFF83, .spelled [0x30C6]⟩, ⟨0xFF84, 0xFF84, .spelled [0x30C8]⟩,
  ⟨0xFF85, 0xFF8A, .moved 0x30CA⟩, ⟨0xFF8B, 0xFF8B, .spelled [0x30D2]⟩,
  ⟨0xFF8C, 0xFF8C, .spelled [0x30D5]⟩, ⟨0xFF8D, 0xFF8D, .spelled [0x30D8]⟩,
  ⟨0xFF8E, 0xFF8E, .spelled [0x30DB]⟩, ⟨0xFF8F, 0xFF93, .moved 0x30DE⟩,
  ⟨0xFF94, 0xFF94, .spelled [0x30E4]⟩, ⟨0xFF95, 0xFF95, .spelled [0x30E6]⟩,
  ⟨0xFF96, 0xFF9B, .moved 0x30E8⟩, ⟨0xFF9C, 0xFF9C, .spelled [0x30EF]⟩,
  ⟨0xFF9D, 0xFF9D, .spelled [0x30F3]⟩, ⟨0xFF9E, 0xFF9F, .spelled []⟩,
  ⟨0xFFA0, 0xFFA0, .spelled [0x1160]⟩, ⟨0xFFA1, 0xFFA2, .moved 0x1100⟩,
  ⟨0xFFA3, 0xFFA3, .spelled [0x11AA]⟩, ⟨0xFFA4, 0xFFA4, .spelled [0x1102]⟩,
  ⟨0xFFA5, 0xFFA6, .moved 0x11AC⟩, ⟨0xFFA7, 0xFFA9, .moved 0x1103⟩, ⟨0xFFAA, 0xFFAF, .moved 0x11B0⟩,
  ⟨0xFFB0, 0xFFB0, .spelled [0x111A]⟩, ⟨0xFFB1, 0xFFB3, .moved 0x1106⟩,
  ⟨0xFFB4, 0xFFB4, .spelled [0x1121]⟩, ⟨0xFFB5, 0xFFBE, .moved 0x1109⟩,
  ⟨0xFFC2, 0xFFC7, .moved 0x1161⟩, ⟨0xFFCA, 0xFFCF, .moved 0x1167⟩, ⟨0xFFD2, 0xFFD7, .moved 0x116D⟩,
  ⟨0xFFDA, 0xFFDC, .moved 0x1173⟩, ⟨0xFFE0, 0xFFE1, .moved 0xA2⟩, ⟨0xFFE2, 0xFFE2, .spelled [0xAC]⟩,
  ⟨0xFFE3, 0xFFE3, .spelled [0x20]⟩, ⟨0xFFE4, 0xFFE4, .spelled [0xA6]⟩,
  ⟨0xFFE5, 0xFFE5, .spelled [0xA5]⟩, ⟨0xFFE6, 0xFFE6, .spelled [0x20A9]⟩,
  ⟨0xFFE8, 0xFFE8, .spelled [0x2502]⟩, ⟨0xFFE9, 0xFFEC, .moved 0x2190⟩,
  ⟨0xFFED, 0xFFED, .spelled [0x25A0]⟩, ⟨0xFFEE, 0xFFEE, .spelled [0x25CB]⟩]

def presentation : List (CodeRange Folding) :=
  presentationRows1 ++ presentationRows2 ++ presentationRows3

end TenantSearch.Text.Folding
