import TenantSearch.Text.Fold.Rule

/-! Folded forms of Unicode 17.0: the scripts of South and South-East Asia, Georgian, Cherokee and
their neighbours. A character without a row stands for itself. -/
namespace TenantSearch.Text.Folding

def brahmic : List (CodeRange Folding) := [
  ⟨0x929, 0x929, .spelled [0x928]⟩, ⟨0x931, 0x931, .spelled [0x930]⟩,
  ⟨0x934, 0x934, .spelled [0x933]⟩, ⟨0x93A, 0x93C, .spelled []⟩, ⟨0x93E, 0x94F, .spelled []⟩,
  ⟨0x951, 0x957, .spelled []⟩, ⟨0x958, 0x95A, .moved 0x915⟩, ⟨0x95B, 0x95B, .spelled [0x91C]⟩,
  ⟨0x95C, 0x95D, .moved 0x921⟩, ⟨0x95E, 0x95E, .spelled [0x92B]⟩, ⟨0x95F, 0x95F, .spelled [0x92F]⟩,
  ⟨0x962, 0x963, .spelled []⟩, ⟨0x981, 0x983, .spelled []⟩, ⟨0x9BC, 0x9BC, .spelled []⟩,
  ⟨0x9BE, 0x9C4, .spelled []⟩, ⟨0x9C7, 0x9C8, .spelled []⟩, ⟨0x9CB, 0x9CD, .spelled []⟩,
  ⟨0x9D7, 0x9D7, .spelled []⟩, ⟨0x9DC, 0x9DD, .moved 0x9A1⟩, ⟨0x9DF, 0x9DF, .spelled [0x9AF]⟩,
  ⟨0x9E2, 0x9E3, .spelled []⟩, ⟨0x9FE, 0x9FE, .spelled []⟩, ⟨0xA01, 0xA03, .spelled []⟩,
  ⟨0xA33, 0xA33, .spelled [0xA32]⟩, ⟨0xA36, 0xA36, .spelled [0xA38]⟩, ⟨0xA3C, 0xA3C, .spelled []⟩,
  ⟨0xA3E, 0xA42, .spelled []⟩, ⟨0xA47, 0xA48, .spelled []⟩, ⟨0xA4B, 0xA4D, .spelled []⟩,
  ⟨0xA51, 0xA51, .spelled []⟩, ⟨0xA59, 0xA5A, .moved 0xA16⟩, ⟨0xA5B, 0xA5B, .spelled [0xA1C]⟩,
  ⟨0xA5E, 0xA5E, .spelled [0xA2B]⟩, ⟨0xA70, 0xA71, .spelled []⟩, ⟨0xA75, 0xA75, .spelled []⟩,
  ⟨0xA81, 0xA83, .spelled []⟩, ⟨0xABC, 0xABC, .spelled []⟩, ⟨0xABE, 0xAC5, .spelled []⟩,
  ⟨0xAC7, 0xAC9, .spelled []⟩, ⟨0xACB, 0xACD, .spelled []⟩, ⟨0xAE2, 0xAE3, .spelled []⟩,
  ⟨0xAFA, 0xAFF, .spelled []⟩, ⟨0xB01, 0xB03, .spelled []⟩, ⟨0xB3C, 0xB3C, .spelled []⟩,
  ⟨0xB3E, 0xB44, .spelled []⟩, ⟨0xB47, 0xB48, .spelled []⟩, ⟨0xB4B, 0xB4D, .spelled []⟩,
  ⟨0xB55, 0xB57, .spelled []⟩, ⟨0xB5C, 0xB5D, .moved 0xB21⟩, ⟨0xB62, 0xB63, .spelled []⟩,
  ⟨0xB82, 0xB82, .spelled []⟩, ⟨0xB94, 0xB94, .spelled [0xB92]⟩, ⟨0xBBE, 0xBC2, .spelled []⟩,
  ⟨0xBC6, 0xBC8, .spelled []⟩, ⟨0xBCA, 0xBCD, .spelled []⟩, ⟨0xBD7, 0xBD7, .spelled []⟩,
  ⟨0xC00, 0xC04, .spelled []⟩, ⟨0xC3C, 0xC3C, .spelled []⟩, ⟨0xC3E, 0xC44, .spelled []⟩,
  ⟨0xC46, 0xC48, .spelled []⟩, ⟨0xC4A, 0xC4D, .spelled []⟩, ⟨0xC55, 0xC56, .spelled []⟩,
  ⟨0xC62, 0xC63, .spelled []⟩, ⟨0xC81, 0xC83, .spelled []⟩, ⟨0xCBC, 0xCBC, .spelled []⟩,
  ⟨0xCBE, 0xCC4, .spelled []⟩, ⟨0xCC6, 0xCC8, .spelled []⟩, ⟨0xCCA, 0xCCD, .spelled []⟩,
  ⟨0xCD5, 0xCD6, .spelled []⟩, ⟨0xCE2, 0xCE3, .spelled []⟩, ⟨0xCF3, 0xCF3, .spelled []⟩,
  ⟨0xD00, 0xD03, .spelled []⟩, ⟨0xD3B, 0xD3C, .spelled []⟩, ⟨0xD3E, 0xD44, .spelled []⟩,
  ⟨0xD46, 0xD48, .spelled []⟩, ⟨0xD4A, 0xD4D, .spelled []⟩, ⟨0xD57, 0xD57, .spelled []⟩,
  ⟨0xD62, 0xD63, .spelled []⟩, ⟨0xD81, 0xD83, .spelled []⟩, ⟨0xDCA, 0xDCA, .spelled []⟩,
  ⟨0xDCF, 0xDD4, .spelled []⟩, ⟨0xDD6, 0xDD6, .spelled []⟩, ⟨0xDD8, 0xDDF, .spelled []⟩,
  ⟨0xDF2, 0xDF3, .spelled []⟩, ⟨0xE31, 0xE31, .spelled []⟩, ⟨0xE33, 0xE33, .spelled [0xE32]⟩,
  ⟨0xE34, 0xE3A, .spelled []⟩, ⟨0xE47, 0xE4E, .spelled []⟩, ⟨0xEB1, 0xEB1, .spelled []⟩,
  ⟨0xEB3, 0xEB3, .spelled [0xEB2]⟩, ⟨0xEB4, 0xEBC, .spelled []⟩, ⟨0xEC8, 0xECE, .spelled []⟩,
  ⟨0xEDC, 0xEDC, .spelled [0xEAB, 0xE99]⟩, ⟨0xEDD, 0xEDD, .spelled [0xEAB, 0xEA1]⟩,
  ⟨0xF0C, 0xF0C, .spelled [0xF0B]⟩, ⟨0xF18, 0xF19, .spelled []⟩, ⟨0xF35, 0xF35, .spelled []⟩,
  ⟨0xF37, 0xF37, .spelled []⟩, ⟨0xF39, 0xF39, .spelled []⟩, ⟨0xF3E, 0xF3F, .spelled []⟩,
  ⟨0xF43, 0xF43, .spelled [0xF42]⟩, ⟨0xF4D, 0xF4D, .spelled [0xF4C]⟩,
  ⟨0xF52, 0xF52, .spelled [0xF51]⟩, ⟨0xF57, 0xF57, .spelled [0xF56]⟩,
  ⟨0xF5C, 0xF5C, .spelled [0xF5B]⟩, ⟨0xF69, 0xF69, .spelled [0xF40]⟩, ⟨0xF71, 0xF84, .spelled []⟩,
  ⟨0xF86, 0xF87, .spelled []⟩, ⟨0xF8D, 0xF97, .spelled []⟩, ⟨0xF99, 0xFBC, .spelled []⟩,
  ⟨0xFC6, 0xFC6, .spelled []⟩, ⟨0x1026, 0x1026, .spelled [0x1025]⟩, ⟨0x102B, 0x103E, .spelled []⟩,
  ⟨0x1056, 0x1059, .spelled []⟩, ⟨0x105E, 0x1060, .spelled []⟩, ⟨0x1062, 0x1064, .spelled []⟩,
  ⟨0x1067, 0x106D, .spelled []⟩, ⟨0x1071, 0x1074, .spelled []⟩, ⟨0x1082, 0x108D, .spelled []⟩,
  ⟨0x108F, 0x108F, .spelled []⟩, ⟨0x109A, 0x109D, .spelled []⟩, ⟨0x10A0, 0x10C5, .moved 0x2D00⟩,
  ⟨0x10C7, 0x10C7, .spelled [0x2D27]⟩, ⟨0x10CD, 0x10CD, .spelled [0x2D2D]⟩,
  ⟨0x10FC, 0x10FC, .spelled [0x10DC]⟩, ⟨0x135D, 0x135F, .spelled []⟩,
  ⟨0x13A0, 0x13EF, .moved 0xAB70⟩, ⟨0x13F0, 0x13F5, .moved 0x13F8⟩, ⟨0x1712, 0x1715, .spelled []⟩,
  ⟨0x1732, 0x1734, .spelled []⟩, ⟨0x1752, 0x1753, .spelled []⟩, ⟨0x1772, 0x1773, .spelled []⟩,
  ⟨0x17B4, 0x17D3, .spelled []⟩, ⟨0x17DD, 0x17DD, .spelled []⟩, ⟨0x180B, 0x180D, .spelled []⟩,
  ⟨0x180F, 0x180F, .spelled []⟩, ⟨0x1885, 0x1886, .spelled []⟩, ⟨0x18A9, 0x18A9, .spelled []⟩,
  ⟨0x1920, 0x192B, .spelled []⟩, ⟨0x1930, 0x193B, .spelled []⟩, ⟨0x1A17, 0x1A1B, .spelled []⟩,
  ⟨0x1A55, 0x1A5E, .spelled []⟩, ⟨0x1A60, 0x1A7C, .spelled []⟩, ⟨0x1A7F, 0x1A7F, .spelled []⟩,
  ⟨0x1AB0, 0x1ADD, .spelled []⟩, ⟨0x1AE0, 0x1AEB, .spelled []⟩, ⟨0x1B00, 0x1B04, .spelled []⟩,
  ⟨0x1B06, 0x1B06, .spelled [0x1B05]⟩, ⟨0x1B08, 0x1B08, .spelled [0x1B07]⟩,
  ⟨0x1B0A, 0x1B0A, .spelled [0x1B09]⟩, ⟨0x1B0C, 0x1B0C, .spelled [0x1B0B]⟩,
  ⟨0x1B0E, 0x1B0E, .spelled [0x1B0D]⟩, ⟨0x1B12, 0x1B12, .spelled [0x1B11]⟩,
  ⟨0x1B34, 0x1B44, .spelled []⟩, ⟨0x1B6B, 0x1B73, .spelled []⟩, ⟨0x1B80, 0x1B82, .spelled []⟩,
  ⟨0x1BA1, 0x1BAD, .spelled []⟩, ⟨0x1BE6, 0x1BF3, .spelled []⟩, ⟨0x1C24, 0x1C37, .spelled []⟩,
  ⟨0x1C89, 0x1C89, .spelled [0x1C8A]⟩, ⟨0x1C90, 0x1CBA, .moved 0x10D0⟩,
  ⟨0x1CBD, 0x1CBF, .moved 0x10FD⟩, ⟨0x1CD0, 0x1CD2, .spelled []⟩, ⟨0x1CD4, 0x1CE8, .spelled []⟩,
  ⟨0x1CED, 0x1CED, .spelled []⟩, ⟨0x1CF4, 0x1CF4, .spelled []⟩, ⟨0x1CF7, 0x1CF9, .spelled []⟩]

end TenantSearch.Text.Folding
