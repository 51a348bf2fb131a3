import TenantSearch.Text.Fold.Rule

/-! Folded forms of Unicode 17.0: compatibility ideographs of the second supplementary plane and the
variation selectors. A character without a row stands for itself. -/
namespace TenantSearch.Text.Folding

private def rareRows1 : List (CodeRange Folding) := [
  ⟨0x2F800, 0x2F800, .spelled [0x4E3D]⟩, ⟨0x2F801, 0x2F801, .spelled [0x4E38]⟩,
  ⟨0x2F802, 0x2F802, .spelled [0x4E41]⟩, ⟨0x2F803, 0x2F803, .spelled [0x20122]⟩,
  ⟨0x2F804, 0x2F804, .spelled [0x4F60]⟩, ⟨0x2F805, 0x2F805, .spelled [0x4FAE]⟩,
  ⟨0x2F806, 0x2F806, .spelled [0x4FBB]⟩, ⟨0x2F807, 0x2F807, .spelled [0x5002]⟩,
  ⟨0x2F808, 0x2F808, .spelled [0x507A]⟩, ⟨0x2F809, 0x2F809, .spelled [0x5099]⟩,
  ⟨0x2F80A, 0x2F80A, .spelled [0x50E7]⟩, ⟨0x2F80B, 0x2F80B, .spelled [0x50CF]⟩,
  ⟨0x2F80C, 0x2F80C, .spelled [0x349E]⟩, ⟨0x2F80D, 0x2F80D, .spelled [0x2063A]⟩,
  ⟨0x2F80E, 0x2F80E, .spelled [0x514D]⟩, ⟨0x2F80F, 0x2F80F, .spelled [0x5154]⟩,
  ⟨0x2F810, 0x2F810, .spelled [0x5164]⟩, ⟨0x2F811, 0x2F811, .spelled [0x5177]⟩,
  ⟨0x2F812, 0x2F812, .spelled [0x2051C]⟩, ⟨0x2F813, 0x2F813, .spelled [0x34B9]⟩,
  ⟨0x2F814, 0x2F814, .spelled [0x5167]⟩, ⟨0x2F815, 0x2F815, .spelled [0x518D]⟩,
  ⟨0x2F816, 0x2F816, .spelled [0x2054B]⟩, ⟨0x2F817, 0x2F817, .spelled [0x5197]⟩,
  ⟨0x2F818, 0x2F818, .spelled [0x51A4]⟩, ⟨0x2F819, 0x2F819, .spelled [0x4ECC]⟩,
  ⟨0x2F81A, 0x2F81A, .spelled [0x51AC]⟩, ⟨0x2F81B, 0x2F81B, .spelled [0x51B5]⟩,
  ⟨0x2F81C, 0x2F81C, .spelled [0x291DF]⟩, ⟨0x2F81D, 0x2F81D, .spelled [0x51F5]⟩,
  ⟨0x2F81E, 0x2F81E, .spelled [0x5203]⟩, ⟨0x2F81F, 0x2F81F, .spelled [0x34DF]⟩,
  ⟨0x2F820, 0x2F820, .spelled [0x523B]⟩, ⟨0x2F821, 0x2F821, .spelled [0x5246]⟩,
  ⟨0x2F822, 0x2F822, .spelled [0x5272]⟩, ⟨0x2F823, 0x2F823, .spelled [0x5277]⟩,
  ⟨0x2F824, 0x2F824, .spelled [0x3515]⟩, ⟨0x2F825, 0x2F825, .spelled [0x52C7]⟩,
  ⟨0x2F826, 0x2F826, .spelled [0x52C9]⟩, ⟨0x2F827, 0x2F827, .spelled [0x52E4]⟩,
  ⟨0x2F828, 0x2F828, .spelled [0x52FA]⟩, ⟨0x2F829, 0x2F82A, .moved 0x5305⟩,
  ⟨0x2F82B, 0x2F82B, .spelled [0x5317]⟩, ⟨0x2F82C, 0x2F82C, .spelled [0x5349]⟩,
  ⟨0x2F82D, 0x2F82D, .spelled [0x5351]⟩, ⟨0x2F82E, 0x2F82E, .spelled [0x535A]⟩,
  ⟨0x2F82F, 0x2F82F, .spelled [0x5373]⟩, ⟨0x2F830, 0x2F830, .spelled [0x537D]⟩,
  ⟨0x2F831, 0x2F833, .spelled [0x537F]⟩, ⟨0x2F834, 0x2F834, .spelled [0x20A2C]⟩,
  ⟨0x2F835, 0x2F835, .spelled [0x7070]⟩, ⟨0x2F836, 0x2F836, .spelled [0x53CA]⟩,
  ⟨0x2F837, 0x2F837, .spelled [0x53DF]⟩, ⟨0x2F838, 0x2F838, .spelled [0x20B63]⟩,
  ⟨0x2F839, 0x2F839, .spelled [0x53EB]⟩, ⟨0x2F83A, 0x2F83A, .spelled [0x53F1]⟩,
  ⟨0x2F83B, 0x2F83B, .spelled [0x5406]⟩, ⟨0x2F83C, 0x2F83C, .spelled [0x549E]⟩,
  ⟨0x2F83D, 0x2F83D, .spelled [0x5438]⟩, ⟨0x2F83E, 0x2F83E, .spelled [0x5448]⟩,
  ⟨0x2F83F, 0x2F83F, .spelled [0x5468]⟩, ⟨0x2F840, 0x2F840, .spelled [0x54A2]⟩,
  ⟨0x2F841, 0x2F841, .spelled [0x54F6]⟩, ⟨0x2F842, 0x2F842, .spelled [0x5510]⟩,
  ⟨0x2F843, 0x2F843, .spelled [0x5553]⟩, ⟨0x2F844, 0x2F844, .spelled [0x5563]⟩,
  ⟨0x2F845, 0x2F846, .spelled [0x5584]⟩, ⟨0x2F847, 0x2F847, .spelled [0x5599]⟩,
  ⟨0x2F848, 0x2F848, .spelled [0x55AB]⟩, ⟨0x2F849, 0x2F849, .spelled [0x55B3]⟩,
  ⟨0x2F84A, 0x2F84A, .spelled [0x55C2]⟩, ⟨0x2F84B, 0x2F84B, .spelled [0x5716]⟩,
  ⟨0x2F84C, 0x2F84C, .spelled [0x5606]⟩, ⟨0x2F84D, 0x2F84D, .spelled [0x5717]⟩,
  ⟨0x2F84E, 0x2F84E, .spelled [0x5651]⟩, ⟨0x2F84F, 0x2F84F, .spelled [0x5674]⟩,
  ⟨0x2F850, 0x2F850, .spelled [0x5207]⟩, ⟨0x2F851, 0x2F851, .spelled [0x58EE]⟩,
  ⟨0x2F852, 0x2F852, .spelled [0x57CE]⟩, ⟨0x2F853, 0x2F853, .spelled [0x57F4]⟩,
  ⟨0x2F854, 0x2F854, .spelled [0x580D]⟩, ⟨0x2F855, 0x2F855, .spelled [0x578B]⟩,
  ⟨0x2F856, 0x2F856, .spelled [0x5832]⟩, ⟨0x2F857, 0x2F857, .spelled [0x5831]⟩,
  ⟨0x2F858, 0x2F858, .spelled [0x58AC]⟩, ⟨0x2F859, 0x2F859, .spelled [0x214E4]⟩,
  ⟨0x2F85A, 0x2F85A, .spelled [0x58F2]⟩, ⟨0x2F85B, 0x2F85B, .spelled [0x58F7]⟩,
  ⟨0x2F85C, 0x2F85C, .spelled [0x5906]⟩, ⟨0x2F85D, 0x2F85D, .spelled [0x591A]⟩,
  ⟨0x2F85E, 0x2F85E, .spelled [0x5922]⟩, ⟨0x2F85F, 0x2F85F, .spelled [0x5962]⟩,
  ⟨0x2F860, 0x2F860, .spelled [0x216A8]⟩, ⟨0x2F861, 0x2F861, .spelled [0x216EA]⟩,
  ⟨0x2F862, 0x2F862, .spelled [0x59EC]⟩, ⟨0x2F863, 0x2F863, .spelled [0x5A1B]⟩,
  ⟨0x2F864, 0x2F864, .spelled [0x5A27]⟩, ⟨0x2F865, 0x2F865, .spelled [0x59D8]⟩,
  ⟨0x2F866, 0x2F866, .spelled [0x5A66]⟩, ⟨0x2F867, 0x2F867, .spelled [0x36EE]⟩,
  ⟨0x2F868, 0x2F868, .spelled [0x36FC]⟩, ⟨0x2F869, 0x2F869, .spelled [0x5B08]⟩,
  ⟨0x2F86A, 0x2F86B, .spelled [0x5B3E]⟩, ⟨0x2F86C, 0x2F86C, .spelled [0x219C8]⟩,
  ⟨0x2F86D, 0x2F86D, .spelled [0x5BC3]⟩, ⟨0x2F86E, 0x2F86E, .spelled [0x5BD8]⟩,
  ⟨0x2F86F, 0x2F86F, .spelled [0x5BE7]⟩, ⟨0x2F870, 0x2F870, .spelled [0x5BF3]⟩,
  ⟨0x2F871, 0x2F871, .spelled [0x21B18]⟩, ⟨0x2F872, 0x2F872, .spelled [0x5BFF]⟩,
  ⟨0x2F873, 0x2F873, .spelled [0x5C06]⟩, ⟨0x2F874, 0x2F874, .spelled [0x5F53]⟩,
  ⟨0x2F875, 0x2F875, .spelled [0x5C22]⟩, ⟨0x2F876, 0x2F876, .spelled [0x3781]⟩,
  ⟨0x2F877, 0x2F877, .spelled [0x5C60]⟩, ⟨0x2F878, 0x2F878, .spelled [0x5C6E]⟩,
  ⟨0x2F879, 0x2F879, .spelled [0x5CC0]⟩, ⟨0x2F87A, 0x2F87A, .spelled [0x5C8D]⟩,
  ⟨0x2F87B, 0x2F87B, .spelled [0x21DE4]⟩, ⟨0x2F87C, 0x2F87C, .spelled [0x5D43]⟩,
  ⟨0x2F87D, 0x2F87D, .spelled [0x21DE6]⟩, ⟨0x2F87E, 0x2F87E, .spelled [0x5D6E]⟩,
  ⟨0x2F87F, 0x2F87F, .spelled [0x5D6B]⟩, ⟨0x2F880, 0x2F880, .spelled [0x5D7C]⟩,
  ⟨0x2F881, 0x2F882, .moved 0x5DE1⟩, ⟨0x2F883, 0x2F883, .spelled [0x382F]⟩,
  ⟨0x2F884, 0x2F884, .spelled [0x5DFD]⟩, ⟨0x2F885, 0x2F885, .spelled [0x5E28]⟩,
  ⟨0x2F886, 0x2F886, .spelled [0x5E3D]⟩, ⟨0x2F887, 0x2F887, .spelled [0x5E69]⟩,
  ⟨0x2F888, 0x2F888, .spelled [0x3862]⟩, ⟨0x2F889, 0x2F889, .spelled [0x22183]⟩,
  ⟨0x2F88A, 0x2F88A, .spelled [0x387C]⟩, ⟨0x2F88B, 0x2F88B, .spelled [0x5EB0]⟩,
  ⟨0x2F88C, 0x2F88C, .spelled [0x5EB3]⟩, ⟨0x2F88D, 0x2F88D, .spelled [0x5EB6]⟩,
  ⟨0x2F88E, 0x2F88E, .spelled [0x5ECA]⟩, ⟨0x2F88F, 0x2F88F, .spelled [0x2A392]⟩,
  ⟨0x2F890, 0x2F890, .spelled [0x5EFE]⟩, ⟨0x2F891, 0x2F892, .spelled [0x22331]⟩,
  ⟨0x2F893, 0x2F893, .spelled [0x8201]⟩, ⟨0x2F894, 0x2F895, .spelled [0x5F22]⟩,
  ⟨0x2F896, 0x2F896, .spelled [0x38C7]⟩, ⟨0x2F897, 0x2F897, .spelled [0x232B8]⟩,
  ⟨0x2F898, 0x2F898, .spelled [0x261DA]⟩, ⟨0x2F899, 0x2F899, .spelled [0x5F62]⟩,
  ⟨0x2F89A, 0x2F89A, .spelled [0x5F6B]⟩, ⟨0x2F89B, 0x2F89B, .spelled [0x38E3]⟩,
  ⟨0x2F89C, 0x2F89C, .spelled [0x5F9A]⟩, ⟨0x2F89D, 0x2F89D, .spelled [0x5FCD]⟩,
  ⟨0x2F89E, 0x2F89E, .spelled [0x5FD7]⟩, ⟨0x2F89F, 0x2F89F, .spelled [0x5FF9]⟩,
  ⟨0x2F8A0, 0x2F8A0, .spelled [0x6081]⟩, ⟨0x2F8A1, 0x2F8A1, .spelled [0x393A]⟩,
  ⟨0x2F8A2, 0x2F8A2, .spelled [0x391C]⟩, ⟨0x2F8A3, 0x2F8A3, .spelled [0x6094]⟩,
  ⟨0x2F8A4, 0x2F8A4, .spelled [0x226D4]⟩, ⟨0x2F8A5, 0x2F8A5, .spelled [0x60C7]⟩,
  ⟨0x2F8A6, 0x2F8A6, .spelled [0x6148]⟩, ⟨0x2F8A7, 0x2F8A7, .spelled [0x614C]⟩,
  ⟨0x2F8A8, 0x2F8A8, .spelled [0x614E]⟩, ⟨0x2F8A9, 0x2F8A9, .spelled [0x614C]⟩,
  ⟨0x2F8AA, 0x2F8AA, .spelled [0x617A]⟩, ⟨0x2F8AB, 0x2F8AB, .spelled [0x618E]⟩,
  ⟨0x2F8AC, 0x2F8AC, .spelled [0x61B2]⟩, ⟨0x2F8AD, 0x2F8AD, .spelled [0x61A4]⟩,
  ⟨0x2F8AE, 0x2F8AE, .spelled [0x61AF]⟩, ⟨0x2F8AF, 0x2F8AF, .spelled [0x61DE]⟩,
  ⟨0x2F8B0, 0x2F8B0, .spelled [0x61F2]⟩, ⟨0x2F8B1, 0x2F8B1, .spelled [0x61F6]⟩,
  ⟨0x2F8B2, 0x2F8B2, .spelled [0x6210]⟩, ⟨0x2F8B3, 0x2F8B3, .spelled [0x621B]⟩,
  ⟨0x2F8B4, 0x2F8B4, .spelled [0x625D]⟩, ⟨0x2F8B5, 0x2F8B5, .spelled [0x62B1]⟩,
  ⟨0x2F8B6, 0x2F8B6, .spelled [0x62D4]⟩, ⟨0x2F8B7, 0x2F8B7, .spelled [0x6350]⟩,
  ⟨0x2F8B8, 0x2F8B8, .spelled [0x22B0C]⟩, ⟨0x2F8B9, 0x2F8B9, .spelled [0x633D]⟩,
  ⟨0x2F8BA, 0x2F8BA, .spelled [0x62FC]⟩, ⟨0x2F8BB, 0x2F8BB, .spelled [0x6368]⟩,
  ⟨0x2F8BC, 0x2F8BC, .spelled [0x6383]⟩, ⟨0x2F8BD, 0x2F8BD, .spelled [0x63E4]⟩,
  ⟨0x2F8BE, 0x2F8BE, .spelled [0x22BF1]⟩, ⟨0x2F8BF, 0x2F8BF, .spelled [0x6422]⟩,
  ⟨0x2F8C0, 0x2F8C0, .spelled [0x63C5]⟩, ⟨0x2F8C1, 0x2F8C1, .spelled [0x63A9]⟩,
  ⟨0x2F8C2, 0x2F8C2, .spelled [0x3A2E]⟩, ⟨0x2F8C3, 0x2F8C3, .spelled [0x6469]⟩,
  ⟨0x2F8C4, 0x2F8C4, .spelled [0x647E]⟩, ⟨0x2F8C5, 0x2F8C5, .spelled [0x649D]⟩,
  ⟨0x2F8C6, 0x2F8C6, .spelled [0x6477]⟩, ⟨0x2F8C7, 0x2F8C7, .spelled [0x3A6C]⟩,
  ⟨0x2F8C8, 0x2F8C8, .spelled [0x654F]⟩, ⟨0x2F8C9, 0x2F8C9, .spelled [0x656C]⟩,
  ⟨0x2F8CA, 0x2F8CA, .spelled [0x2300A]⟩, ⟨0x2F8CB, 0x2F8CB, .spelled [0x65E3]⟩,
  ⟨0x2F8CC, 0x2F8CC, .spelled [0x66F8]⟩, ⟨0x2F8CD, 0x2F8CD, .spelled [0x6649]⟩,
  ⟨0x2F8CE, 0x2F8CE, .spelled [0x3B19]⟩, ⟨0x2F8CF, 0x2F8CF, .spelled [0x6691]⟩,
  ⟨0x2F8D0, 0x2F8D0, .spelled [0x3B08]⟩, ⟨0x2F8D1, 0x2F8D1, .spelled [0x3AE4]⟩,
  ⟨0x2F8D2, 0x2F8D2, .spelled [0x5192]⟩, ⟨0x2F8D3, 0x2F8D3, .spelled [0x5195]⟩,
  ⟨0x2F8D4, 0x2F8D4, .spelled [0x6700]⟩, ⟨0x2F8D5, 0x2F8D5, .spelled [0x669C]⟩,
  ⟨0x2F8D6, 0x2F8D6, .spelled [0x80AD]⟩, ⟨0x2F8D7, 0x2F8D7, .spelled [0x43D9]⟩,
  ⟨0x2F8D8, 0x2F8D8, .spelled [0x6717]⟩, ⟨0x2F8D9, 0x2F8D9, .spelled [0x671B]⟩,
  ⟨0x2F8DA, 0x2F8DA, .spelled [0x6721]⟩, ⟨0x2F8DB, 0x2F8DB, .spelled [0x675E]⟩,
  ⟨0x2F8DC, 0x2F8DC, .spelled [0x6753]⟩, ⟨0x2F8DD, 0x2F8DD, .spelled [0x233C3]⟩,
  ⟨0x2F8DE, 0x2F8DE, .spelled [0x3B49]⟩, ⟨0x2F8DF, 0x2F8DF, .spelled [0x67FA]⟩,
  ⟨0x2F8E0, 0x2F8E0, .spelled [0x6785]⟩, ⟨0x2F8E1, 0x2F8E1, .spelled [0x6852]⟩,
  ⟨0x2F8E2, 0x2F8E2, .spelled [0x6885]⟩, ⟨0x2F8E3, 0x2F8E3, .spelled [0x2346D]⟩,
  ⟨0x2F8E4, 0x2F8E4, .spelled [0x688E]⟩, ⟨0x2F8E5, 0x2F8E5, .spelled [0x681F]⟩,
  ⟨0x2F8E6, 0x2F8E6, .spelled [0x6914]⟩, ⟨0x2F8E7, 0x2F8E7, .spelled [0x3B9D]⟩,
  ⟨0x2F8E8, 0x2F8E8, .spelled [0x6942]⟩, ⟨0x2F8E9, 0x2F8E9, .spelled [0x69A3]⟩,
  ⟨0x2F8EA, 0x2F8EA, .spelled [0x69EA]⟩, ⟨0x2F8EB, 0x2F8EB, .spelled [0x6AA8]⟩,
  ⟨0x2F8EC, 0x2F8EC, .spelled [0x236A3]⟩, ⟨0x2F8ED, 0x2F8ED, .spelled [0x6ADB]⟩,
  ⟨0x2F8EE, 0x2F8EE, .spelled [0x3C18]⟩, ⟨0x2F8EF, 0x2F8EF, .spelled [0x6B21]⟩,
  ⟨0x2F8F0, 0x2F8F0, .spelled [0x238A7]⟩, ⟨0x2F8F1, 0x2F8F1, .spelled [0x6B54]⟩,
  ⟨0x2F8F2, 0x2F8F2, .spelled [0x3C4E]⟩, ⟨0x2F8F3, 0x2F8F3, .spelled [0x6B72]⟩,
  ⟨0x2F8F4, 0x2F8F4, .spelled [0x6B9F]⟩, ⟨0x2F8F5, 0x2F8F6, .moved 0x6BBA⟩,
  ⟨0x2F8F7, 0x2F8F7, .spelled [0x23A8D]⟩, ⟨0x2F8F8, 0x2F8F8, .spelled [0x21D0B]⟩,
  ⟨0x2F8F9, 0x2F8F9, .spelled [0x23AFA]⟩, ⟨0x2F8FA, 0x2F8FA, .spelled [0x6C4E]⟩,
  ⟨0x2F8FB, 0x2F8FB, .spelled [0x23CBC]⟩, ⟨0x2F8FC, 0x2F8FC, .spelled [0x6CBF]⟩,
  ⟨0x2F8FD, 0x2F8FD, .spelled [0x6CCD]⟩, ⟨0x2F8FE, 0x2F8FE, .spelled [0x6C67]⟩,
  ⟨0x2F8FF, 0x2F8FF, .spelled [0x6D16]⟩, ⟨0x2F900, 0x2F900, .spelled [0x6D3E]⟩,
  ⟨0x2F901, 0x2F901, .spelled [0x6D77]⟩, ⟨0x2F902, 0x2F902, .spelled [0x6D41]⟩,
  ⟨0x2F903, 0x2F903, .spelled [0x6D69]⟩, ⟨0x2F904, 0x2F904, .spelled [0x6D78]⟩,
  ⟨0x2F905, 0x2F905, .spelled [0x6D85]⟩, ⟨0x2F906, 0x2F906, .spelled [0x23D1E]⟩,
  ⟨0x2F907, 0x2F907, .spelled [0x6D34]⟩, ⟨0x2F908, 0x2F908, .spelled [0x6E2F]⟩]

private def rareRows2 : List (CodeRange Folding) := [
  ⟨0x2F909, 0x2F909, .spelled [0x6E6E]⟩, ⟨0x2F90A, 0x2F90A, .spelled [0x3D33]⟩,
  ⟨0x2F90B, 0x2F90B, .spelled [0x6ECB]⟩, ⟨0x2F90C, 0x2F90C, .spelled [0x6EC7]⟩,
  ⟨0x2F90D, 0x2F90D, .spelled [0x23ED1]⟩, ⟨0x2F90E, 0x2F90E, .spelled [0x6DF9]⟩,
  ⟨0x2F90F, 0x2F90F, .spelled [0x6F6E]⟩, ⟨0x2F910, 0x2F910, .spelled [0x23F5E]⟩,
  ⟨0x2F911, 0x2F911, .spelled [0x23F8E]⟩, ⟨0x2F912, 0x2F912, .spelled [0x6FC6]⟩,
  ⟨0x2F913, 0x2F913, .spelled [0x7039]⟩, ⟨0x2F914, 0x2F914, .spelled [0x701E]⟩,
  ⟨0x2F915, 0x2F915, .spelled [0x701B]⟩, ⟨0x2F916, 0x2F916, .spelled [0x3D96]⟩,
  ⟨0x2F917, 0x2F917, .spelled [0x704A]⟩, ⟨0x2F918, 0x2F918, .spelled [0x707D]⟩,
  ⟨0x2F919, 0x2F919, .spelled [0x7077]⟩, ⟨0x2F91A, 0x2F91A, .spelled [0x70AD]⟩,
  ⟨0x2F91B, 0x2F91B, .spelled [0x20525]⟩, ⟨0x2F91C, 0x2F91C, .spelled [0x7145]⟩,
  ⟨0x2F91D, 0x2F91D, .spelled [0x24263]⟩, ⟨0x2F91E, 0x2F91E, .spelled [0x719C]⟩,
  ⟨0x2F91F, 0x2F91F, .spelled [0x243AB]⟩, ⟨0x2F920, 0x2F920, .spelled [0x7228]⟩,
  ⟨0x2F921, 0x2F921, .spelled [0x7235]⟩, ⟨0x2F922, 0x2F922, .spelled [0x7250]⟩,
  ⟨0x2F923, 0x2F923, .spelled [0x24608]⟩, ⟨0x2F924, 0x2F924, .spelled [0x7280]⟩,
  ⟨0x2F925, 0x2F925, .spelled [0x7295]⟩, ⟨0x2F926, 0x2F926, .spelled [0x24735]⟩,
  ⟨0x2F927, 0x2F927, .spelled [0x24814]⟩, ⟨0x2F928, 0x2F928, .spelled [0x737A]⟩,
  ⟨0x2F929, 0x2F929, .spelled [0x738B]⟩, ⟨0x2F92A, 0x2F92A, .spelled [0x3EAC]⟩,
  ⟨0x2F92B, 0x2F92B, .spelled [0x73A5]⟩, ⟨0x2F92C, 0x2F92D, .spelled [0x3EB8]⟩,
  ⟨0x2F92E, 0x2F92E, .spelled [0x7447]⟩, ⟨0x2F92F, 0x2F92F, .spelled [0x745C]⟩,
  ⟨0x2F930, 0x2F930, .spelled [0x7471]⟩, ⟨0x2F931, 0x2F931, .spelled [0x7485]⟩,
  ⟨0x2F932, 0x2F932, .spelled [0x74CA]⟩, ⟨0x2F933, 0x2F933, .spelled [0x3F1B]⟩,
  ⟨0x2F934, 0x2F934, .spelled [0x7524]⟩, ⟨0x2F935, 0x2F935, .spelled [0x24C36]⟩,
  ⟨0x2F936, 0x2F936, .spelled [0x753E]⟩, ⟨0x2F937, 0x2F937, .spelled [0x24C92]⟩,
  ⟨0x2F938, 0x2F938, .spelled [0x7570]⟩, ⟨0x2F939, 0x2F939, .spelled [0x2219F]⟩,
  ⟨0x2F93A, 0x2F93A, .spelled [0x7610]⟩, ⟨0x2F93B, 0x2F93B, .spelled [0x24FA1]⟩,
  ⟨0x2F93C, 0x2F93C, .spelled [0x24FB8]⟩, ⟨0x2F93D, 0x2F93D, .spelled [0x25044]⟩,
  ⟨0x2F93E, 0x2F93E, .spelled [0x3FFC]⟩, ⟨0x2F93F, 0x2F93F, .spelled [0x4008]⟩,
  ⟨0x2F940, 0x2F940, .spelled [0x76F4]⟩, ⟨0x2F941, 0x2F941, .spelled [0x250F3]⟩,
  ⟨0x2F942, 0x2F942, .spelled [0x250F2]⟩, ⟨0x2F943, 0x2F943, .spelled [0x25119]⟩,
  ⟨0x2F944, 0x2F944, .spelled [0x25133]⟩, ⟨0x2F945, 0x2F946, .moved 0x771E⟩,
  ⟨0x2F947, 0x2F947, .spelled [0x771F]⟩, ⟨0x2F948, 0x2F948, .spelled [0x774A]⟩,
  ⟨0x2F949, 0x2F949, .spelled [0x4039]⟩, ⟨0x2F94A, 0x2F94A, .spelled [0x778B]⟩,
  ⟨0x2F94B, 0x2F94B, .spelled [0x4046]⟩, ⟨0x2F94C, 0x2F94C, .spelled [0x4096]⟩,
  ⟨0x2F94D, 0x2F94D, .spelled [0x2541D]⟩, ⟨0x2F94E, 0x2F94E, .spelled [0x784E]⟩,
  ⟨0x2F94F, 0x2F94F, .spelled [0x788C]⟩, ⟨0x2F950, 0x2F950, .spelled [0x78CC]⟩,
  ⟨0x2F951, 0x2F951, .spelled [0x40E3]⟩, ⟨0x2F952, 0x2F952, .spelled [0x25626]⟩,
  ⟨0x2F953, 0x2F953, .spelled [0x7956]⟩, ⟨0x2F954, 0x2F954, .spelled [0x2569A]⟩,
  ⟨0x2F955, 0x2F955, .spelled [0x256C5]⟩, ⟨0x2F956, 0x2F956, .spelled [0x798F]⟩,
  ⟨0x2F957, 0x2F957, .spelled [0x79EB]⟩, ⟨0x2F958, 0x2F958, .spelled [0x412F]⟩,
  ⟨0x2F959, 0x2F959, .spelled [0x7A40]⟩, ⟨0x2F95A, 0x2F95A, .spelled [0x7A4A]⟩,
  ⟨0x2F95B, 0x2F95B, .spelled [0x7A4F]⟩, ⟨0x2F95C, 0x2F95C, .spelled [0x2597C]⟩,
  ⟨0x2F95D, 0x2F95E, .spelled [0x25AA7]⟩, ⟨0x2F95F, 0x2F95F, .spelled [0x7AEE]⟩,
  ⟨0x2F960, 0x2F960, .spelled [0x4202]⟩, ⟨0x2F961, 0x2F961, .spelled [0x25BAB]⟩,
  ⟨0x2F962, 0x2F962, .spelled [0x7BC6]⟩, ⟨0x2F963, 0x2F963, .spelled [0x7BC9]⟩,
  ⟨0x2F964, 0x2F964, .spelled [0x4227]⟩, ⟨0x2F965, 0x2F965, .spelled [0x25C80]⟩,
  ⟨0x2F966, 0x2F966, .spelled [0x7CD2]⟩, ⟨0x2F967, 0x2F967, .spelled [0x42A0]⟩,
  ⟨0x2F968, 0x2F968, .spelled [0x7CE8]⟩, ⟨0x2F969, 0x2F969, .spelled [0x7CE3]⟩,
  ⟨0x2F96A, 0x2F96A, .spelled [0x7D00]⟩, ⟨0x2F96B, 0x2F96B, .spelled [0x25F86]⟩,
  ⟨0x2F96C, 0x2F96C, .spelled [0x7D63]⟩, ⟨0x2F96D, 0x2F96D, .spelled [0x4301]⟩,
  ⟨0x2F96E, 0x2F96E, .spelled [0x7DC7]⟩, ⟨0x2F96F, 0x2F96F, .spelled [0x7E02]⟩,
  ⟨0x2F970, 0x2F970, .spelled [0x7E45]⟩, ⟨0x2F971, 0x2F971, .spelled [0x4334]⟩,
  ⟨0x2F972, 0x2F972, .spelled [0x26228]⟩, ⟨0x2F973, 0x2F973, .spelled [0x26247]⟩,
  ⟨0x2F974, 0x2F974, .spelled [0x4359]⟩, ⟨0x2F975, 0x2F975, .spelled [0x262D9]⟩,
  ⟨0x2F976, 0x2F976, .spelled [0x7F7A]⟩, ⟨0x2F977, 0x2F977, .spelled [0x2633E]⟩,
  ⟨0x2F978, 0x2F978, .spelled [0x7F95]⟩, ⟨0x2F979, 0x2F979, .spelled [0x7FFA]⟩,
  ⟨0x2F97A, 0x2F97A, .spelled [0x8005]⟩, ⟨0x2F97B, 0x2F97B, .spelled [0x264DA]⟩,
  ⟨0x2F97C, 0x2F97C, .spelled [0x26523]⟩, ⟨0x2F97D, 0x2F97D, .spelled [0x8060]⟩,
  ⟨0x2F97E, 0x2F97E, .spelled [0x265A8]⟩, ⟨0x2F97F, 0x2F97F, .spelled [0x8070]⟩,
  ⟨0x2F980, 0x2F980, .spelled [0x2335F]⟩, ⟨0x2F981, 0x2F981, .spelled [0x43D5]⟩,
  ⟨0x2F982, 0x2F982, .spelled [0x80B2]⟩, ⟨0x2F983, 0x2F983, .spelled [0x8103]⟩,
  ⟨0x2F984, 0x2F984, .spelled [0x440B]⟩, ⟨0x2F985, 0x2F985, .spelled [0x813E]⟩,
  ⟨0x2F986, 0x2F986, .spelled [0x5AB5]⟩, ⟨0x2F987, 0x2F987, .spelled [0x267A7]⟩,
  ⟨0x2F988, 0x2F988, .spelled [0x267B5]⟩, ⟨0x2F989, 0x2F989, .spelled [0x23393]⟩,
  ⟨0x2F98A, 0x2F98A, .spelled [0x2339C]⟩, ⟨0x2F98B, 0x2F98B, .spelled [0x8201]⟩,
  ⟨0x2F98C, 0x2F98C, .spelled [0x8204]⟩, ⟨0x2F98D, 0x2F98D, .spelled [0x8F9E]⟩,
  ⟨0x2F98E, 0x2F98E, .spelled [0x446B]⟩, ⟨0x2F98F, 0x2F98F, .spelled [0x8291]⟩,
  ⟨0x2F990, 0x2F990, .spelled [0x828B]⟩, ⟨0x2F991, 0x2F991, .spelled [0x829D]⟩,
  ⟨0x2F992, 0x2F992, .spelled [0x52B3]⟩, ⟨0x2F993, 0x2F993, .spelled [0x82B1]⟩,
  ⟨0x2F994, 0x2F994, .spelled [0x82B3]⟩, ⟨0x2F995, 0x2F995, .spelled [0x82BD]⟩,
  ⟨0x2F996, 0x2F996, .spelled [0x82E6]⟩, ⟨0x2F997, 0x2F997, .spelled [0x26B3C]⟩,
  ⟨0x2F998, 0x2F998, .spelled [0x82E5]⟩, ⟨0x2F999, 0x2F999, .spelled [0x831D]⟩,
  ⟨0x2F99A, 0x2F99A, .spelled [0x8363]⟩, ⟨0x2F99B, 0x2F99B, .spelled [0x83AD]⟩,
  ⟨0x2F99C, 0x2F99C, .spelled [0x8323]⟩, ⟨0x2F99D, 0x2F99D, .spelled [0x83BD]⟩,
  ⟨0x2F99E, 0x2F99E, .spelled [0x83E7]⟩, ⟨0x2F99F, 0x2F99F, .spelled [0x8457]⟩,
  ⟨0x2F9A0, 0x2F9A0, .spelled [0x8353]⟩, ⟨0x2F9A1, 0x2F9A1, .spelled [0x83CA]⟩,
  ⟨0x2F9A2, 0x2F9A2, .spelled [0x83CC]⟩, ⟨0x2F9A3, 0x2F9A3, .spelled [0x83DC]⟩,
  ⟨0x2F9A4, 0x2F9A4, .spelled [0x26C36]⟩, ⟨0x2F9A5, 0x2F9A5, .spelled [0x26D6B]⟩,
  ⟨0x2F9A6, 0x2F9A6, .spelled [0x26CD5]⟩, ⟨0x2F9A7, 0x2F9A7, .spelled [0x452B]⟩,
  ⟨0x2F9A8, 0x2F9A8, .spelled [0x84F1]⟩, ⟨0x2F9A9, 0x2F9A9, .spelled [0x84F3]⟩,
  ⟨0x2F9AA, 0x2F9AA, .spelled [0x8516]⟩, ⟨0x2F9AB, 0x2F9AB, .spelled [0x273CA]⟩,
  ⟨0x2F9AC, 0x2F9AC, .spelled [0x8564]⟩, ⟨0x2F9AD, 0x2F9AD, .spelled [0x26F2C]⟩,
  ⟨0x2F9AE, 0x2F9AE, .spelled [0x455D]⟩, ⟨0x2F9AF, 0x2F9AF, .spelled [0x4561]⟩,
  ⟨0x2F9B0, 0x2F9B0, .spelled [0x26FB1]⟩, ⟨0x2F9B1, 0x2F9B1, .spelled [0x270D2]⟩,
  ⟨0x2F9B2, 0x2F9B2, .spelled [0x456B]⟩, ⟨0x2F9B3, 0x2F9B3, .spelled [0x8650]⟩,
  ⟨0x2F9B4, 0x2F9B4, .spelled [0x865C]⟩, ⟨0x2F9B5, 0x2F9B5, .spelled [0x8667]⟩,
  ⟨0x2F9B6, 0x2F9B6, .spelled [0x8669]⟩, ⟨0x2F9B7, 0x2F9B7, .spelled [0x86A9]⟩,
  ⟨0x2F9B8, 0x2F9B8, .spelled [0x8688]⟩, ⟨0x2F9B9, 0x2F9B9, .spelled [0x870E]⟩,
  ⟨0x2F9BA, 0x2F9BA, .spelled [0x86E2]⟩, ⟨0x2F9BB, 0x2F9BB, .spelled [0x8779]⟩,
  ⟨0x2F9BC, 0x2F9BC, .spelled [0x8728]⟩, ⟨0x2F9BD, 0x2F9BD, .spelled [0x876B]⟩,
  ⟨0x2F9BE, 0x2F9BE, .spelled [0x8786]⟩, ⟨0x2F9BF, 0x2F9BF, .spelled [0x45D7]⟩,
  ⟨0x2F9C0, 0x2F9C0, .spelled [0x87E1]⟩, ⟨0x2F9C1, 0x2F9C1, .spelled [0x8801]⟩,
  ⟨0x2F9C2, 0x2F9C2, .spelled [0x45F9]⟩, ⟨0x2F9C3, 0x2F9C3, .spelled [0x8860]⟩,
  ⟨0x2F9C4, 0x2F9C4, .spelled [0x8863]⟩, ⟨0x2F9C5, 0x2F9C5, .spelled [0x27667]⟩,
  ⟨0x2F9C6, 0x2F9C6, .spelled [0x88D7]⟩, ⟨0x2F9C7, 0x2F9C7, .spelled [0x88DE]⟩,
  ⟨0x2F9C8, 0x2F9C8, .spelled [0x4635]⟩, ⟨0x2F9C9, 0x2F9C9, .spelled [0x88FA]⟩,
  ⟨0x2F9CA, 0x2F9CA, .spelled [0x34BB]⟩, ⟨0x2F9CB, 0x2F9CB, .spelled [0x278AE]⟩,
  ⟨0x2F9CC, 0x2F9CC, .spelled [0x27966]⟩, ⟨0x2F9CD, 0x2F9CD, .spelled [0x46BE]⟩,
  ⟨0x2F9CE, 0x2F9CE, .spelled [0x46C7]⟩, ⟨0x2F9CF, 0x2F9CF, .spelled [0x8AA0]⟩,
  ⟨0x2F9D0, 0x2F9D0, .spelled [0x8AED]⟩, ⟨0x2F9D1, 0x2F9D1, .spelled [0x8B8A]⟩,
  ⟨0x2F9D2, 0x2F9D2, .spelled [0x8C55]⟩, ⟨0x2F9D3, 0x2F9D3, .spelled [0x27CA8]⟩,
  ⟨0x2F9D4, 0x2F9D4, .spelled [0x8CAB]⟩, ⟨0x2F9D5, 0x2F9D5, .spelled [0x8CC1]⟩,
  ⟨0x2F9D6, 0x2F9D6, .spelled [0x8D1B]⟩, ⟨0x2F9D7, 0x2F9D7, .spelled [0x8D77]⟩,
  ⟨0x2F9D8, 0x2F9D8, .spelled [0x27F2F]⟩, ⟨0x2F9D9, 0x2F9D9, .spelled [0x20804]⟩,
  ⟨0x2F9DA, 0x2F9DA, .spelled [0x8DCB]⟩, ⟨0x2F9DB, 0x2F9DB, .spelled [0x8DBC]⟩,
  ⟨0x2F9DC, 0x2F9DC, .spelled [0x8DF0]⟩, ⟨0x2F9DD, 0x2F9DD, .spelled [0x208DE]⟩,
  ⟨0x2F9DE, 0x2F9DE, .spelled [0x8ED4]⟩, ⟨0x2F9DF, 0x2F9DF, .spelled [0x8F38]⟩,
  ⟨0x2F9E0, 0x2F9E0, .spelled [0x285D2]⟩, ⟨0x2F9E1, 0x2F9E1, .spelled [0x285ED]⟩,
  ⟨0x2F9E2, 0x2F9E2, .spelled [0x9094]⟩, ⟨0x2F9E3, 0x2F9E3, .spelled [0x90F1]⟩,
  ⟨0x2F9E4, 0x2F9E4, .spelled [0x9111]⟩, ⟨0x2F9E5, 0x2F9E5, .spelled [0x2872E]⟩,
  ⟨0x2F9E6, 0x2F9E6, .spelled [0x911B]⟩, ⟨0x2F9E7, 0x2F9E7, .spelled [0x9238]⟩,
  ⟨0x2F9E8, 0x2F9E9, .moved 0x92D7⟩, ⟨0x2F9EA, 0x2F9EA, .spelled [0x927C]⟩,
  ⟨0x2F9EB, 0x2F9EB, .spelled [0x93F9]⟩, ⟨0x2F9EC, 0x2F9EC, .spelled [0x9415]⟩,
  ⟨0x2F9ED, 0x2F9ED, .spelled [0x28BFA]⟩, ⟨0x2F9EE, 0x2F9EE, .spelled [0x958B]⟩,
  ⟨0x2F9EF, 0x2F9EF, .spelled [0x4995]⟩, ⟨0x2F9F0, 0x2F9F0, .spelled [0x95B7]⟩,
  ⟨0x2F9F1, 0x2F9F1, .spelled [0x28D77]⟩, ⟨0x2F9F2, 0x2F9F2, .spelled [0x49E6]⟩,
  ⟨0x2F9F3, 0x2F9F3, .spelled [0x96C3]⟩, ⟨0x2F9F4, 0x2F9F4, .spelled [0x5DB2]⟩,
  ⟨0x2F9F5, 0x2F9F5, .spelled [0x9723]⟩, ⟨0x2F9F6, 0x2F9F6, .spelled [0x29145]⟩,
  ⟨0x2F9F7, 0x2F9F7, .spelled [0x2921A]⟩, ⟨0x2F9F8, 0x2F9F8, .spelled [0x4A6E]⟩,
  ⟨0x2F9F9, 0x2F9F9, .spelled [0x4A76]⟩, ⟨0x2F9FA, 0x2F9FA, .spelled [0x97E0]⟩,
  ⟨0x2F9FB, 0x2F9FB, .spelled [0x2940A]⟩, ⟨0x2F9FC, 0x2F9FC, .spelled [0x4AB2]⟩,
  ⟨0x2F9FD, 0x2F9FD, .spelled [0x29496]⟩, ⟨0x2F9FE, 0x2F9FF, .spelled [0x980B]⟩,
  ⟨0x2FA00, 0x2FA00, .spelled [0x9829]⟩, ⟨0x2FA01, 0x2FA01, .spelled [0x295B6]⟩,
  ⟨0x2FA02, 0x2FA02, .spelled [0x98E2]⟩, ⟨0x2FA03, 0x2FA03, .spelled [0x4B33]⟩,
  ⟨0x2FA04, 0x2FA04, .spelled [0x9929]⟩, ⟨0x2FA05, 0x2FA05, .spelled [0x99A7]⟩,
  ⟨0x2FA06, 0x2FA06, .spelled [0x99C2]⟩, ⟨0x2FA07, 0x2FA07, .spelled [0x99FE]⟩,
  ⟨0x2FA08, 0x2FA08, .spelled [0x4BCE]⟩, ⟨0x2FA09, 0x2FA09, .spelled [0x29B30]⟩,
  ⟨0x2FA0A, 0x2FA0A, .spelled [0x9B12]⟩, ⟨0x2FA0B, 0x2FA0B, .spelled [0x9C40]⟩,
  ⟨0x2FA0C, 0x2FA0C, .spelled [0x9CFD]⟩, ⟨0x2FA0D, 0x2FA0D, .spelled [0x4CCE]⟩]

private def rareRows3 : List (CodeRange Folding) := [
  ⟨0x2FA0E, 0x2FA0E, .spelled [0x4CED]⟩, ⟨0x2FA0F, 0x2FA0F, .spelled [0x9D67]⟩,
  ⟨0x2FA10, 0x2FA10, .spelled [0x2A0CE]⟩, ⟨0x2FA11, 0x2FA11, .spelled [0x4CF8]⟩,
  ⟨0x2FA12, 0x2FA12, .spelled [0x2A105]⟩, ⟨0x2FA13, 0x2FA13, .spelled [0x2A20E]⟩,
  ⟨0x2FA14, 0x2FA14, .spelled [0x2A291]⟩, ⟨0x2FA15, 0x2FA15, .spelled [0x9EBB]⟩,
  ⟨0x2FA16, 0x2FA16, .spelled [0x4D56]⟩, ⟨0x2FA17, 0x2FA17, .spelled [0x9EF9]⟩,
  ⟨0x2FA18, 0x2FA18, .spelled [0x9EFE]⟩, ⟨0x2FA19, 0x2FA19, .spelled [0x9F05]⟩,
  ⟨0x2FA1A, 0x2FA1A, .spelled [0x9F0F]⟩, ⟨0x2FA1B, 0x2FA1B, .spelled [0x9F16]⟩,
  ⟨0x2FA1C, 0x2FA1C, .spelled [0x9F3B]⟩, ⟨0x2FA1D, 0x2FA1D, .spelled [0x2A600]⟩,
  ⟨0xE0100, 0xE01EF, .spelled []⟩]

def rare : List (CodeRange Folding) :=
  rareRows1 ++ rareRows2 ++ rareRows3

end TenantSearch.Text.Folding
