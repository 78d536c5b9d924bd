import GuidAudit.Host.Composition

namespace GuidAudit

def mappingLines : List String :=
  ["k41 u1A.20 k25 r20 s20 k7 s20.308 k1 s61 k2 d1 k1 s20.304 k2 l2.80 s20.301 s3BC k2 s20.327",
    "s31 s6F k1 s31.2044.34 s31.2044.32 s33.2044.34 k1 u17.20 k1 u7.20 k21 p18 s69.307 k1 s69.6A",
    "s69.6A p2 k1 p3 s6C.B7 s6C.B7 p4 s2BC.6E p17 sFF p3 s73 k1 s253 p2 s254 p1 u2.CD p1 k1 s1DD",
    "s259 s25B p1 s260 s263 k1 s269 s268 p1 k2 s26F s272 k1 s275 p3 s280 p1 s283 k2 p1 s288 p1",
    "u2.D9 p2 s292 p1 k2 p1 k6 s64.17E s64.17E s64.17E s6C.6A s6C.6A s6C.6A s6E.6A s6E.6A s6E.6A",
    "p8 k1 p9 k1 s64.7A s64.7A s64.7A p1 s195 s1BF p14 s19E k1 p9 k6 s2C65 p1 s19A s2C66 k2 p1",
    "s180 s289 s28C p5 k60 s68 s266 s6A s72 s279 s27B s281 s77 s79 k1F s20.306 s20.307 s20.30A",
    "s20.328 s20.303 s20.30B k2 s263 s6C s73 s78 s295 k5B l2.40 k1 s313 s308.301 s3B9 k9 d1 k20",
    "p2 s2B9 k1 p1 r2 s20.3B9 k3 s3B s3F3 r4 s20.301 s20.308.301 s3AC sB7 u3.25 r1 s3CC r1 u2.3F",
    "k1 u11.20 r1 u9.20 k23 s3D7 s3B2 s3B8 s3C5 s3CD s3CB s3C6 s3C0 k1 pC s3BA s3C1 s3C3 k1 s3B8",
    "s3B5 k1 p1 s3C3 p1 k1 l3.82 u10.50 u20.20 k30 p11 k8 p1B r1 p7 k1 p30 r1 u26.30 r2 k2E",
    "s565.582 k3 r2 k3 r1 k37 r8 k1B r4 k6 r11 k16 r1 k58 s627.674 s648.674 s6C7.674 s64A.674",
    "k64 r1 k30 r2 k3B r2 k65 rE k3B r2 k31 r2 kF r1 k1C r2 k1 r1 kB r5 k1F r9 k4A r1 k75",
    "s915.93C s916.93C s917.93C s91C.93C s921.93C s922.93C s92B.93C s92F.93C k24 r1 k8 r2 k2 r2",
    "k16 r1 k7 r1 k1 r3 k4 r2 k9 r2 k2 r2 k4 r8 k1 r4 s9A1.9BC s9A2.9BC r1 s9AF.9BC k4 r2 k19 r2",
    "k3 r1 k6 r4 k2 r2 k16 r1 k7 r1 k1 sA32.A3C r1 k1 sA38.A3C r1 k2 r2 k1 r1 k5 r4 k2 r2 k3 r3",
    "k1 r7 sA16.A3C sA17.A3C sA1C.A3C k1 r1 sA2B.A3C r7 k11 rA k3 r1 k9 r1 k3 r1 k16 r1 k7 r1 k2",
    "r1 k5 r2 kA r1 k3 r1 k3 r2 k1 rF k4 r2 kC r7 k7 r1 k3 r1 k8 r2 k2 r2 k16 r1 k7 r1 k2 r1 k5",
    "r2 k9 r2 k2 r2 k3 r7 k3 r4 sB21.B3C sB22.B3C r1 k5 r2 k12 rA k2 r1 k6 r3 k3 r1 k4 r3 k2 r1",
    "k1 r1 k2 r3 k2 r3 k3 r3 kC r4 k5 r3 k3 r1 k4 r2 k1 r6 k1 rE k15 r5 kD r1 k3 r1 k17 r1 k10",
    "r2 k9 r1 k3 r1 k4 r7 k2 r1 k3 r2 k1 r2 k4 r2 kA r7 k16 r1 k3 r1 k17 r1 kA r1 k5 r2 k9 r1 k3",
    "r1 k4 r7 k2 r6 k2 r1 k4 r2 kA r1 k3 rC kD r1 k3 r1 k33 r1 k3 r1 k6 r4 k10 r2 k1A r1 k3 r1",
    "k12 r3 k18 r1 k9 r1 k1 r2 k7 r3 k1 r4 k6 r1 k1 r1 k8 r6 kA r2 k3 rC k32 sE4D.E32 k7 r4 k1D",
    "r25 k2 r1 k1 r1 k5 r1 k18 r1 k1 r1 kC sECD.EB2 kA r2 k5 r1 k1 r1 k7 r1 kA r2 sEAB.E99",
    "sEAB.EA1 k2 r20 kC sF0B k36 sF42.FB7 k4 r1 k4 sF4C.FB7 k4 sF51.FB7 k4 sF56.FB7 k4 sF5B.FB7",
    "kC sF40.FB5 k3 r4 k2 sF71.F72 k1 sF71.F74 sFB2.F80 sFB2.F71.F80 sFB3.F80 sFB3.F71.F80 k7",
    "sF71.F80 k11 sF92.FB7 k4 r1 k4 sF9C.FB7 k4 sFA1.FB7 k4 sFA6.FB7 k4 sFAB.FB7 kC sF90.FB5 k3",
    "r1 kF r1 kD r25 kA0 r27 s2D27 r5 s2D2D r2 k2C s10DC k62 r2 kE8 r1 k4 r2 k7 r1 k1 r1 k4 r2",
    "k29 r1 k4 r2 k21 r1 k4 r2 k7 r1 k1 r1 k4 r2 kF r1 k39 r1 k4 r2 k43 r2 k20 r3 k1A r6 k56 r2",
    "l6.8 r2 k280 r1 k1C r3 k59 r7 k16 r9 k18 r9 k14 rC kD r1 k3 r1 k2 rC k34 r2 k28 r2 kA r6 kA",
    "r6 k6 r1 k4 d3 r1 d1 kA r6 k59 r7 k2B r5 k46 rA k1F r1 kC r4 kC r4 k1 r3 k2A r2 k5 rB k2C",
    "r4 k1A r6 kB r3 k3E r2 k41 r1 k1D r2 kB r6 kA r6 kE r2 k1F r31 k4D r3 k2F r1 k74 r8 k3C r3",
    "kF r3 k33 s432 s434 s43E l2.1842 s442 s44A s463 sA64B r7 l2B.BC0 r2 l3.BC0 k8 r8 k2B r5 k2C",
    "s61 sE6 s62 k1 l2.1CCC s1DD l8.1CCC k1 s6F s223 s70 s72 l2.1CCC s77 s61 l2.1AF4 s1D02 s62",
    "l2.1CE4 s259 l2.1AF0 s67 k1 s6B s6D s14B s6F s254 l2.3E s70 l2.1CE3 s1D1D s26F s76 s1D25",
    "l3.19AB l2.199A s69 s72 l2.1CEF l2.19B4 s3C1 l2.19A3 kD s43D k22 s252 s63 s255 sF0 s25C s66",
    "s25F s261 s265 l3.1B3C s1D7B s29D s26D s1D85 s29F s271 s270 l4.1B3C s278 l2.1B31 s1AB",
    "l2.1B2D s1D1C l2.1B2E s7A l3.1B2C s3B8 k40 p4B k4 s61.2BE s1E61 k2 s73.73 k1 p30 k8 l8.8 k6",
    "r2 l6.8 r2 k8 l8.8 k8 l8.8 k6 r2 l6.8 r2 k8 r1 s1F51 r1 s1F53 r1 s1F55 r1 s1F57 k8 l8.8 k1",
    "s3AC k1 s3AD k1 s3AE k1 s3AF k1 s3CC k1 s3CD k1 s3CE r2 s1F00.3B9 s1F01.3B9 s1F02.3B9",
    "s1F03.3B9 s1F04.3B9 s1F05.3B9 s1F06.3B9 s1F07.3B9 s1F00.3B9 s1F01.3B9 s1F02.3B9 s1F03.3B9",
    "s1F04.3B9 s1F05.3B9 s1F06.3B9 s1F07.3B9 s1F20.3B9 s1F21.3B9 s1F22.3B9 s1F23.3B9 s1F24.3B9",
    "s1F25.3B9 s1F26.3B9 s1F27.3B9 s1F20.3B9 s1F21.3B9 s1F22.3B9 s1F23.3B9 s1F24.3B9 s1F25.3B9",
    "s1F26.3B9 s1F27.3B9 s1F60.3B9 s1F61.3B9 s1F62.3B9 s1F63.3B9 s1F64.3B9 s1F65.3B9 s1F66.3B9",
    "s1F67.3B9 s1F60.3B9 s1F61.3B9 s1F62.3B9 s1F63.3B9 s1F64.3B9 s1F65.3B9 s1F66.3B9 s1F67.3B9",
    "k2 s1F70.3B9 s3B1.3B9 s3AC.3B9 r1 k1 s1FB6.3B9 l2.8 s1F70 s3AC s3B1.3B9 s20.313 s3B9",
    "s20.313 s20.342 s20.308.342 s1F74.3B9 s3B7.3B9 s3AE.3B9 r1 k1 s1FC6.3B9 s1F72 s3AD s1F74",
    "s3AE s3B7.3B9 s20.313.300 s20.313.301 s20.313.342 k3 s390 r2 k2 l2.8 s1F76 s3AF r1",
    "s20.314.300 s20.314.301 s20.314.342 k3 s3B0 k4 l2.8 s1F7A s3CD s1FE5 s20.308.300",
    "s20.308.301 s60 r2 s1F7C.3B9 s3C9.3B9 s3CE.3B9 r1 k1 s1FF6.3B9 s1F78 s3CC s1F7C s3CE",
    "s3C9.3B9 s20.301 s20.314 r1 s20 s20 s20 s20 s20 s20 s20 s20 s20 s20 s20 d1 k2 r2 k1 s2010",
    "k5 s20.333 kC r3 k1 r7 s20 k3 s2032.2032 s2032.2032.2032 k1 s2035.2035 s2035.2035.2035 k4",
    "s21.21 k1 s20.305 k8 s3F.3F s3F.21 s21.3F kD s2032.2032.2032.2032 k7 s20 d1 r3 d1 rB s30",
    "s69 r2 l6.2040 s2B s2212 s3D l2.2055 s6E lA.2050 s2B s2212 s3D l2.2065 r1 s61 s65 s6F s78",
    "s259 s68 l4.202B s70 l2.2028 r3 k8 s72.73 k18 rF k21 rF s61.2F.63 s61.2F.73 s63 sB0.63 k1",
    "s63.2F.6F s63.2F.75 s25B k1 sB0.66 l2.20A3 s68 s68 s68 s127 s69 s69 s6C s6C k1 s6E s6E.6F",
    "k2 l3.20A9 s72 s72 k2 s73.6D s74.65.6C s74.6D k1 s7A k1 s3C9 k1 s7A k1 s6B sE5 l2.20CA k1",
    "s65 l2.20CB r1 s6D s6F l4.1B65 s69 k1 s66.61.78 s3C0 s3B3 s3B3 s3C0 s2211 k4 s64 l2.20E2",
    "l2.20DF k6 s31.2044.37 s31.2044.39 s31.2044.31.30 s31.2044.33 s32.2044.33 s31.2044.35",
    "s32.2044.35 s33.2044.35 s34.2044.35 s31.2044.36 s35.2044.36 s31.2044.38 s33.2044.38",
    "s35.2044.38 s37.2044.38 s31.2044 s69 s69.69 s69.69.69 s69.76 s76 s76.69 s76.69.69",
    "s76.69.69.69 s69.78 s78 s78.69 s78.69.69 s6C l2.210A s6D s69 s69.69 s69.69.69 s69.76 s76",
    "s76.69 s76.69.69 s76.69.69.69 s69.78 s78 s78.69 s78.69.69 s6C l2.211A s6D k3 r1 k5",
    "s30.2044.33 k2 r4 k9C s222B.222B s222B.222B.222B k1 s222E.222E s222E.222E.222E kF8 u2.CDF",
    "kFC r19 kB r15 l9.242F s31.30 s31.31 s31.32 s31.33 s31.34 s31.35 s31.36 s31.37 s31.38",
    "s31.39 s32.30 s28.31.29 s28.32.29 s28.33.29 s28.34.29 s28.35.29 s28.36.29 s28.37.29",
    "s28.38.29 s28.39.29 s28.31.30.29 s28.31.31.29 s28.31.32.29 s28.31.33.29 s28.31.34.29",
    "s28.31.35.29 s28.31.36.29 s28.31.37.29 s28.31.38.29 s28.31.39.29 s28.32.30.29 r14 s28.61.29",
    "s28.62.29 s28.63.29 s28.64.29 s28.65.29 s28.66.29 s28.67.29 s28.68.29 s28.69.29 s28.6A.29",
    "s28.6B.29 s28.6C.29 s28.6D.29 s28.6E.29 s28.6F.29 s28.70.29 s28.71.29 s28.72.29 s28.73.29",
    "s28.74.29 s28.75.29 s28.76.29 s28.77.29 s28.78.29 s28.79.29 s28.7A.29 l1A.2455 l1A.246F s30",
    "k521 s222B.222B.222B.222B k67 s3A.3A.3D s3D.3D s3D.3D.3D k65 s2ADD.338 k97 r2 k20 r1 k69",
    "u30.30 k30 p1 s26B s1D7D s27D k2 p3 s251 s271 s250 s252 k1 p1 k1 p1 k5 s6A s76 l2.2A3F p32",
    "k7 p2 k3 p1 r5 k2D r1 k1 r5 k1 r2 k38 r7 s2D61 k1 rE k18 r9 k7 r1 k7 r1 k7 r1 k7 r1 k7 r1",
    "k7 r1 k7 r1 k7 r1 k7E r22 k1A r1 k4 s6BCD k53 s9F9F rC s4E00 s4E28 s4E36 s4E3F s4E59 s4E85",
    "s4E8C s4EA0 s4EBA s513F s5165 s516B s5182 s5196 s51AB s51E0 s51F5 s5200 s529B s52F9 s5315",
    "s531A s5338 s5341 s535C s5369 s5382 s53B6 s53C8 s53E3 s56D7 s571F s58EB s5902 s590A s5915",
    "s5927 s5973 s5B50 s5B80 s5BF8 s5C0F s5C22 s5C38 s5C6E s5C71 s5DDB s5DE5 s5DF1 s5DFE s5E72",
    "s5E7A s5E7F s5EF4 s5EFE s5F0B s5F13 s5F50 s5F61 s5F73 s5FC3 s6208 s6236 s624B s652F s6534",
    "s6587 s6597 s65A4 s65B9 s65E0 s65E5 s66F0 s6708 s6728 s6B20 s6B62 s6B79 s6BB3 s6BCB s6BD4",
    "s6BDB s6C0F s6C14 s6C34 s706B s722A s7236 s723B s723F s7247 s7259 s725B s72AC s7384 s7389",
    "s74DC s74E6 s7518 s751F s7528 s7530 s758B s7592 s7676 s767D s76AE s76BF s76EE s77DB s77E2",
    "s77F3 s793A s79B8 s79BE s7A74 s7ACB s7AF9 s7C73 s7CF8 s7F36 s7F51 s7F8A s7FBD s8001 s800C",
    "s8012 s8033 s807F s8089 s81E3 s81EA s81F3 s81FC s820C s821B s821F s826E s8272 s8278 s864D",
    "s866B s8840 s884C s8863 s897E s898B s89D2 s8A00 s8C37 s8C46 s8C55 s8C78 s8C9D s8D64 s8D70",
    "s8DB3 s8EAB s8ECA s8F9B s8FB0 s8FB5 s9091 s9149 s91C6 s91CC s91D1 s9577 s9580 s961C s96B6",
    "s96B9 s96E8 s9751 s975E s9762 s9769 s97CB s97ED s97F3 s9801 s98A8 s98DB s98DF s9996 s9999",
    "s99AC s9AA8 s9AD8 s9ADF s9B25 s9B2F s9B32 s9B3C s9B5A s9CE5 s9E75 s9E7F s9EA5 s9EBB s9EC3",
    "s9ECD s9ED1 s9EF9 s9EFD s9F0E s9F13 s9F20 s9F3B s9F4A s9F52 s9F8D s9F9C s9FA0 r2A s20 k1",
    "s2E k33 s3012 k1 s5341 u2.230B k5 r1 k56 r2 k2 s20.3099 s20.309A k2 s3088.308A k5F",
    "s30B3.30C8 r5 k2B r1 l2.2031 s11AA s1102 l2.1F89 l3.2034 l6.1F8A s111A l3.203B s1121",
    "lA.203C l15.1FEE r1 l2.2051 l2.1FA0 s11CC s11CE s11D3 s11D7 s11D9 s111C s11DD s11DF l2.2054",
    "s1120 l2.2052 s1127 s1129 l5.204D s1132 s1136 s1140 s1147 s114C l2.1F91 l3.202D l2.2003",
    "s1188 l2.1FF9 s1194 s119E s11A1 r1 k2 s4E00 s4E8C s4E09 s56DB s4E0A s4E2D s4E0B s7532 s4E59",
    "s4E19 s4E01 s5929 s5730 s4EBA k44 rC k10 s28.1100.29 s28.1102.29 s28.1103.29 s28.1105.29",
    "s28.1106.29 s28.1107.29 s28.1109.29 s28.110B.29 s28.110C.29 s28.110E.29 s28.110F.29",
    "s28.1110.29 s28.1111.29 s28.1112.29 s28.AC00.29 s28.B098.29 s28.B2E4.29 s28.B77C.29",
    "s28.B9C8.29 s28.BC14.29 s28.C0AC.29 s28.C544.29 s28.C790.29 s28.CC28.29 s28.CE74.29",
    "s28.D0C0.29 s28.D30C.29 s28.D558.29 s28.C8FC.29 s28.C624.C804.29 s28.C624.D6C4.29 r1",
    "s28.4E00.29 s28.4E8C.29 s28.4E09.29 s28.56DB.29 s28.4E94.29 s28.516D.29 s28.4E03.29",
    "s28.516B.29 s28.4E5D.29 s28.5341.29 s28.6708.29 s28.706B.29 s28.6C34.29 s28.6728.29",
    "s28.91D1.29 s28.571F.29 s28.65E5.29 s28.682A.29 s28.6709.29 s28.793E.29 s28.540D.29",
    "s28.7279.29 s28.8CA1.29 s28.795D.29 s28.52B4.29 s28.4EE3.29 s28.547C.29 s28.5B66.29",
    "s28.76E3.29 s28.4F01.29 s28.8CC7.29 s28.5354.29 s28.796D.29 s28.4F11.29 s28.81EA.29",
    "s28.81F3.29 s554F s5E7C s6587 s7B8F k8 s70.74.65 s32.31 s32.32 s32.33 s32.34 s32.35 s32.36",
    "s32.37 s32.38 s32.39 s33.30 s33.31 s33.32 s33.33 s33.34 s33.35 s1100 l2.215F l3.215E s1109",
    "l2.215C l5.215B sAC00 sB098 sB2E4 sB77C sB9C8 sBC14 sC0AC sC544 sC790 sCC28 sCE74 sD0C0",
    "sD30C sD558 sCC38.ACE0 sC8FC.C758 sC6B0 k1 s4E00 s4E8C s4E09 s56DB s4E94 s516D s4E03 s516B",
    "s4E5D s5341 s6708 s706B s6C34 s6728 s91D1 s571F s65E5 s682A s6709 s793E s540D s7279 s8CA1",
    "s795D s52B4 s79D8 s7537 s5973 s9069 s512A s5370 s6CE8 s9805 s4F11 s5199 s6B63 s4E0A s4E2D",
    "s4E0B s5DE6 s53F3 s533B s5B97 s5B66 s76E3 s4F01 s8CC7 s5354 s591C s33.36 s33.37 s33.38",
    "s33.39 s34.30 s34.31 s34.32 s34.33 s34.34 s34.35 s34.36 s34.37 s34.38 s34.39 s35.30",
    "s31.6708 s32.6708 s33.6708 s34.6708 s35.6708 s36.6708 s37.6708 s38.6708 s39.6708",
    "s31.30.6708 s31.31.6708 s31.32.6708 s68.67 s65.72.67 s65.76 s6C.74.64 s30A2 s30A4 s30A6",
    "s30A8 l2.22A s30AD s30AF s30B1 s30B3 s30B5 s30B7 s30B9 s30BB s30BD s30BF s30C1 s30C4 s30C6",
    "s30C8 l6.21A s30D2 s30D5 s30D8 s30DB l5.210 s30E4 s30E6 l6.20D l4.20C s4EE4.548C",
    "s30A2.30D1.30FC.30C8 s30A2.30EB.30D5.30A1 s30A2.30F3.30DA.30A2 s30A2.30FC.30EB",
    "s30A4.30CB.30F3.30B0 s30A4.30F3.30C1 s30A6.30A9.30F3 s30A8.30B9.30AF.30FC.30C9",
    "s30A8.30FC.30AB.30FC s30AA.30F3.30B9 s30AA.30FC.30E0 s30AB.30A4.30EA s30AB.30E9.30C3.30C8",
    "s30AB.30ED.30EA.30FC s30AC.30ED.30F3 s30AC.30F3.30DE s30AE.30AC s30AE.30CB.30FC",
    "s30AD.30E5.30EA.30FC s30AE.30EB.30C0.30FC s30AD.30ED s30AD.30ED.30B0.30E9.30E0",
    "s30AD.30ED.30E1.30FC.30C8.30EB s30AD.30ED.30EF.30C3.30C8 s30B0.30E9.30E0",
    "s30B0.30E9.30E0.30C8.30F3 s30AF.30EB.30BC.30A4.30ED s30AF.30ED.30FC.30CD s30B1.30FC.30B9",
    "s30B3.30EB.30CA s30B3.30FC.30DD s30B5.30A4.30AF.30EB s30B5.30F3.30C1.30FC.30E0",
    "s30B7.30EA.30F3.30B0 s30BB.30F3.30C1 s30BB.30F3.30C8 s30C0.30FC.30B9 s30C7.30B7 s30C9.30EB",
    "s30C8.30F3 s30CA.30CE s30CE.30C3.30C8 s30CF.30A4.30C4 s30D1.30FC.30BB.30F3.30C8",
    "s30D1.30FC.30C4 s30D0.30FC.30EC.30EB s30D4.30A2.30B9.30C8.30EB s30D4.30AF.30EB s30D4.30B3",
    "s30D3.30EB s30D5.30A1.30E9.30C3.30C9 s30D5.30A3.30FC.30C8 s30D6.30C3.30B7.30A7.30EB",
    "s30D5.30E9.30F3 s30D8.30AF.30BF.30FC.30EB s30DA.30BD s30DA.30CB.30D2 s30D8.30EB.30C4",
    "s30DA.30F3.30B9 s30DA.30FC.30B8 s30D9.30FC.30BF s30DD.30A4.30F3.30C8 s30DC.30EB.30C8",
    "s30DB.30F3 s30DD.30F3.30C9 s30DB.30FC.30EB s30DB.30FC.30F3 s30DE.30A4.30AF.30ED",
    "s30DE.30A4.30EB s30DE.30C3.30CF s30DE.30EB.30AF s30DE.30F3.30B7.30E7.30F3",
    "s30DF.30AF.30ED.30F3 s30DF.30EA s30DF.30EA.30D0.30FC.30EB s30E1.30AC s30E1.30AC.30C8.30F3",
    "s30E1.30FC.30C8.30EB s30E4.30FC.30C9 s30E4.30FC.30EB s30E6.30A2.30F3 s30EA.30C3.30C8.30EB",
    "s30EA.30E9 s30EB.30D4.30FC s30EB.30FC.30D6.30EB s30EC.30E0 s30EC.30F3.30C8.30B2.30F3",
    "s30EF.30C3.30C8 s30.70B9 s31.70B9 s32.70B9 s33.70B9 s34.70B9 s35.70B9 s36.70B9 s37.70B9",
    "s38.70B9 s39.70B9 s31.30.70B9 s31.31.70B9 s31.32.70B9 s31.33.70B9 s31.34.70B9 s31.35.70B9",
    "s31.36.70B9 s31.37.70B9 s31.38.70B9 s31.39.70B9 s32.30.70B9 s32.31.70B9 s32.32.70B9",
    "s32.33.70B9 s32.34.70B9 s68.70.61 s64.61 s61.75 s62.61.72 s6F.76 s70.63 s64.6D s64.6D.32",
    "s64.6D.33 s69.75 s5E73.6210 s662D.548C s5927.6B63 s660E.6CBB s682A.5F0F.4F1A.793E s70.61",
    "s6E.61 s3BC.61 s6D.61 s6B.61 s6B.62 s6D.62 s67.62 s63.61.6C s6B.63.61.6C s70.66 s6E.66",
    "s3BC.66 s3BC.67 s6D.67 s6B.67 s68.7A s6B.68.7A s6D.68.7A s67.68.7A s74.68.7A s3BC.6C s6D.6C",
    "s64.6C s6B.6C s66.6D s6E.6D s3BC.6D s6D.6D s63.6D s6B.6D s6D.6D.32 s63.6D.32 s6D.32",
    "s6B.6D.32 s6D.6D.33 s63.6D.33 s6D.33 s6B.6D.33 s6D.2215.73 s6D.2215.73.32 s70.61 s6B.70.61",
    "s6D.70.61 s67.70.61 s72.61.64 s72.61.64.2215.73 s72.61.64.2215.73.32 s70.73 s6E.73 s3BC.73",
    "s6D.73 s70.76 s6E.76 s3BC.76 s6D.76 s6B.76 s6D.76 s70.77 s6E.77 s3BC.77 s6D.77 s6B.77",
    "s6D.77 s6B.3C9 s6D.3C9 r1 s62.71 s63.63 s63.64 s63.2215.6B.67 r1 s64.62 s67.79 s68.61",
    "s68.70 s69.6E s6B.6B s6B.6D s6B.74 s6C.6D s6C.6E s6C.6F.67 s6C.78 s6D.62 s6D.69.6C",
    "s6D.6F.6C s70.68 r1 s70.70.6D s70.72 s73.72 s73.76 s77.62 s76.2215.6D s61.2215.6D s31.65E5",
    "s32.65E5 s33.65E5 s34.65E5 s35.65E5 s36.65E5 s37.65E5 s38.65E5 s39.65E5 s31.30.65E5",
    "s31.31.65E5 s31.32.65E5 s31.33.65E5 s31.34.65E5 s31.35.65E5 s31.36.65E5 s31.37.65E5",
    "s31.38.65E5 s31.39.65E5 s32.30.65E5 s32.31.65E5 s32.32.65E5 s32.33.65E5 s32.34.65E5",
    "s32.35.65E5 s32.36.65E5 s32.37.65E5 s32.38.65E5 s32.39.65E5 s33.30.65E5 s33.31.65E5",
    "s67.61.6C k708D r3 k37 r9 k15C r14 p17 k12 pE s44A s44C k5A r8 k22 p7 k2 p1F sA76F k8 p2",
    "s1D79 p5 k3 p1 s265 k2 p2 k2 pA s266 s25C s261 s26C s26A k1 s29E s287 s29D sAB53 p8 sA794",
    "s282 s1D8E p2 r5 p1 r1 k1 r1 k1 p2 r18 s63 s66 s71 p1 k1 s127 s153 k33 r3 kA r6 k38 r8 k46",
    "r8 kC r6 k74 rB k1E r3 k4E r1 kB r4 k21 r1 k37 r9 kE r2 kA r2 k67 r18 k1C rA k6 r2 k6 r2 k6",
    "r9 k7 r1 k7 r1 k2C sA727 sAB37 s26B sAB52 k9 s28D k2 r4 l50.97D0 k2E r2 kA r6 k2BA4 rC k17",
    "r4 k31 r2104 s8C48 s66F4 s8ECA s8CC8 s6ED1 s4E32 s53E5 s9F9C s9F9C s5951 s91D1 s5587 s5948",
    "s61F6 s7669 s7F85 s863F s87BA s88F8 s908F s6A02 s6D1B s70D9 s73DE s843D s916A s99F1 s4E82",
    "s5375 s6B04 s721B s862D s9E1E s5D50 s6FEB s85CD s8964 s62C9 s81D8 s881F s5ECA s6717 s6D6A",
    "s72FC s90CE s4F86 s51B7 s52DE s64C4 s6AD3 s7210 s76E7 s8001 s8606 s865C s8DEF s9732 s9B6F",
    "s9DFA s788C s797F s7DA0 s83C9 s9304 s9E7F s8AD6 s58DF s5F04 s7C60 s807E s7262 s78CA s8CC2",
    "s96F7 s58D8 s5C62 s6A13 s6DDA s6F0F s7D2F s7E37 s964B s52D2 s808B s51DC s51CC s7A1C s7DBE",
    "s83F1 s9675 s8B80 s62CF s6A02 s8AFE s4E39 s5BE7 s6012 s7387 s7570 s5317 s78FB s4FBF s5FA9",
    "s4E0D s6CCC s6578 s7D22 s53C3 s585E s7701 s8449 s8AAA s6BBA s8FB0 s6C88 s62FE s82E5 s63A0",
    "s7565 s4EAE s5169 s51C9 s6881 s7CE7 s826F s8AD2 s91CF s52F5 s5442 s5973 s5EEC s65C5 s6FFE",
    "s792A s95AD s9A6A s9E97 s9ECE s529B s66C6 s6B77 s8F62 s5E74 s6190 s6200 s649A s6F23 s7149",
    "s7489 s79CA s7DF4 s806F s8F26 s84EE s9023 s934A s5217 s52A3 s54BD s70C8 s88C2 s8AAA s5EC9",
    "s5FF5 s637B s6BAE s7C3E s7375 s4EE4 s56F9 s5BE7 s5DBA s601C s73B2 s7469 s7F9A s8046 s9234",
    "s96F6 s9748 s9818 s4F8B s79AE s91B4 s96B8 s60E1 s4E86 s50DA s5BEE s5C3F s6599 s6A02 s71CE",
    "s7642 s84FC s907C s9F8D s6688 s962E s5289 s677B s67F3 s6D41 s6E9C s7409 s7559 s786B s7D10",
    "s985E s516D s622E s9678 s502B s5D19 s6DEA s8F2A s5F8B s6144 s6817 s7387 s9686 s5229 s540F",
    "s5C65 s6613 s674E s68A8 s6CE5 s7406 s75E2 s7F79 s88CF s88E1 s91CC s96E2 s533F s6EBA s541D",
    "s71D0 s7498 s85FA s96A3 s9C57 s9E9F s6797 s6DCB s81E8 s7ACB s7B20 s7C92 s72C0 s7099 s8B58",
    "s4EC0 s8336 s523A s5207 s5EA6 s62D3 s7CD6 s5B85 s6D1E s66B4 s8F3B s884C s964D s898B s5ED3",
    "s5140 s55C0 k2 s585A k1 s6674 k2 s51DE s732A s76CA s793C s795E s7965 s798F s9756 s7CBE",
    "s7FBD k1 s8612 k1 s8AF8 k2 s9038 s90FD k3 s98EF s98FC s9928 s9DB4 s90DE s96B7 s4FAE s50E7",
    "s514D s52C9 s52E4 s5351 s559D s5606 s5668 s5840 s58A8 s5C64 s5C6E s6094 s6168 s618E s61F2",
    "s654F s65E2 s6691 s6885 s6D77 s6E1A s6F22 s716E s722B s7422 s7891 s793E s7949 s7948 s7950",
    "s7956 s795D l2.80C5 s7A40 s7A81 s7BC0 s7DF4 s7E09 s7E41 s7F72 s8005 s81ED s8279 s8279 s8457",
    "s8910 s8996 s8B01 s8B39 s8CD3 s8D08 s8FB6 s9038 s96E3 s97FF s983B s6075 s242EE s8218 r2",
    "s4E26 s51B5 s5168 s4F80 s5145 s5180 s52C7 s52FA s559D s5555 s5599 s55E2 s585A s58B3 s5944",
    "s5954 s5A62 s5B28 s5ED2 s5ED9 s5F69 s5FAD s60D8 s614E s6108 s618E s6160 s61F2 s6234 s63C4",
    "s641C s6452 s6556 s6674 s6717 s671B s6756 s6B79 s6BBA s6D41 s6EDB s6ECB s6F22 s701E s716E",
    "s77A7 s7235 s72AF s732A s7471 s7506 s753B s761D s761F s76CA s76DB s76F4 s774A s7740 s78CC",
    "s7AB1 s7BC0 s7C7B s7D5B s7DF4 s7F3E s8005 s8352 s83EF s8779 s8941 s8986 s8996 s8ABF s8AF8",
    "s8ACB s8B01 s8AFE s8AED s8B39 s8B8A s8D08 s8F38 s9072 s9199 s9276 s967C s96E3 s9756 s97DB",
    "s97FF s980B s983B s9B12 s9F9C s2284A s22844 s233D5 s3B9D s4018 s4039 s25249 s25CD0 s27ED3",
    "s9F43 s9F8E r26 s66.66 s66.69 s66.6C s66.66.69 s66.66.6C s73.74 s73.74 rC s574.576 s574.565",
    "s574.56B s57E.576 s574.56D r5 s5D9.5B4 k1 s5F2.5B7 s5E2 s5D0 l2.F54F l3.F549 s5E8 s5EA s2B",
    "s5E9.5C1 s5E9.5C2 s5E9.5BC.5C1 s5E9.5BC.5C2 s5D0.5B7 s5D0.5B8 s5D0.5BC s5D1.5BC s5D2.5BC",
    "s5D3.5BC s5D4.5BC s5D5.5BC s5D6.5BC r1 s5D8.5BC s5D9.5BC s5DA.5BC s5DB.5BC s5DC.5BC r1",
    "s5DE.5BC r1 s5E0.5BC s5E1.5BC r1 s5E3.5BC s5E4.5BC r1 s5E6.5BC s5E7.5BC s5E8.5BC s5E9.5BC",
    "s5EA.5BC s5D5.5B9 s5D1.5BF s5DB.5BF s5E4.5BF s5D0.5DC s671 s671 s67B s67B s67B s67B s67E",
    "s67E s67E s67E s680 s680 s680 s680 s67A s67A s67A s67A s67F s67F s67F s67F s679 s679 s679",
    "s679 s6A4 s6A4 s6A4 s6A4 s6A6 s6A6 s6A6 s6A6 s684 s684 s684 s684 s683 s683 s683 s683 s686",
    "s686 s686 l2.F4F7 s687 s687 s687 s68D s68D s68C s68C s68E s68E s688 s688 s698 s698 s691",
    "s691 s6A9 s6A9 s6A9 s6A9 s6AF s6AF s6AF s6AF s6B3 s6B3 s6B3 s6B3 s6B1 s6B1 s6B1 s6B1 s6BA",
    "l2.F4E5 s6BB s6BB s6BB s6C0 l2.F4E5 s6C1 s6C1 s6C1 s6BE s6BE s6BE s6BE s6D2 l2.F4DD s6D3",
    "k11 r10 s6AD s6AD s6AD s6AD s6C7 s6C7 s6C6 s6C6 s6C8 s6C8 s6C7.674 s6CB s6CB s6C5 s6C5 s6C9",
    "s6C9 s6D0 s6D0 s6D0 s6D0 s649 s649 s626.627 s626.627 s626.6D5 s626.6D5 s626.648 s626.648",
    "s626.6C7 s626.6C7 s626.6C6 s626.6C6 s626.6C8 s626.6C8 s626.6D0 s626.6D0 s626.6D0 s626.649",
    "s626.649 s626.649 s6CC s6CC s6CC s6CC s626.62C s626.62D s626.645 s626.649 s626.64A s628.62C",
    "s628.62D s628.62E s628.645 s628.649 s628.64A s62A.62C s62A.62D s62A.62E s62A.645 s62A.649",
    "s62A.64A s62B.62C s62B.645 s62B.649 s62B.64A s62C.62D s62C.645 s62D.62C s62D.645 s62E.62C",
    "s62E.62D s62E.645 s633.62C s633.62D s633.62E s633.645 s635.62D s635.645 s636.62C s636.62D",
    "s636.62E s636.645 s637.62D s637.645 s638.645 s639.62C s639.645 s63A.62C s63A.645 s641.62C",
    "s641.62D s641.62E s641.645 s641.649 s641.64A s642.62D s642.645 s642.649 s642.64A s643.627",
    "s643.62C s643.62D s643.62E s643.644 s643.645 s643.649 s643.64A s644.62C s644.62D s644.62E",
    "s644.645 s644.649 s644.64A s645.62C s645.62D s645.62E s645.645 s645.649 s645.64A s646.62C",
    "s646.62D s646.62E s646.645 s646.649 s646.64A s647.62C s647.645 s647.649 s647.64A s64A.62C",
    "s64A.62D s64A.62E s64A.645 s64A.649 s64A.64A s630.670 s631.670 s649.670 s20.64C.651",
    "s20.64D.651 s20.64E.651 s20.64F.651 s20.650.651 s20.651.670 s626.631 s626.632 s626.645",
    "s626.646 s626.649 s626.64A s628.631 s628.632 s628.645 s628.646 s628.649 s628.64A s62A.631",
    "s62A.632 s62A.645 s62A.646 s62A.649 s62A.64A s62B.631 s62B.632 s62B.645 s62B.646 s62B.649",
    "s62B.64A s641.649 s641.64A s642.649 s642.64A s643.627 s643.644 s643.645 s643.649 s643.64A",
    "s644.645 s644.649 s644.64A s645.627 s645.645 s646.631 s646.632 s646.645 s646.646 s646.649",
    "s646.64A s649.670 s64A.631 s64A.632 s64A.645 s64A.646 s64A.649 s64A.64A s626.62C s626.62D",
    "s626.62E s626.645 s626.647 s628.62C s628.62D s628.62E s628.645 s628.647 s62A.62C s62A.62D",
    "s62A.62E s62A.645 s62A.647 s62B.645 s62C.62D s62C.645 s62D.62C s62D.645 s62E.62C s62E.645",
    "s633.62C s633.62D s633.62E s633.645 s635.62D s635.62E s635.645 s636.62C s636.62D s636.62E",
    "s636.645 s637.62D s638.645 s639.62C s639.645 s63A.62C s63A.645 s641.62C s641.62D s641.62E",
    "s641.645 s642.62D s642.645 s643.62C s643.62D s643.62E s643.644 s643.645 s644.62C s644.62D",
    "s644.62E s644.645 s644.647 s645.62C s645.62D s645.62E s645.645 s646.62C s646.62D s646.62E",
    "s646.645 s646.647 s647.62C s647.645 s647.670 s64A.62C s64A.62D s64A.62E s64A.645 s64A.647",
    "s626.645 s626.647 s628.645 s628.647 s62A.645 s62A.647 s62B.645 s62B.647 s633.645 s633.647",
    "s634.645 s634.647 s643.644 s643.645 s644.645 s646.645 s646.647 s64A.645 s64A.647",
    "s640.64E.651 s640.64F.651 s640.650.651 s637.649 s637.64A s639.649 s639.64A s63A.649",
    "s63A.64A s633.649 s633.64A s634.649 s634.64A s62D.649 s62D.64A s62C.649 s62C.64A s62E.649",
    "s62E.64A s635.649 s635.64A s636.649 s636.64A s634.62C s634.62D s634.62E s634.645 s634.631",
    "s633.631 s635.631 s636.631 s637.649 s637.64A s639.649 s639.64A s63A.649 s63A.64A s633.649",
    "s633.64A s634.649 s634.64A s62D.649 s62D.64A s62C.649 s62C.64A s62E.649 s62E.64A s635.649",
    "s635.64A s636.649 s636.64A s634.62C s634.62D s634.62E s634.645 s634.631 s633.631 s635.631",
    "s636.631 s634.62C s634.62D s634.62E s634.645 s633.647 s634.647 s637.645 s633.62C s633.62D",
    "s633.62E s634.62C s634.62D s634.62E s637.645 s638.645 s627.64B s627.64B k12 s62A.62C.645",
    "s62A.62D.62C s62A.62D.62C s62A.62D.645 s62A.62E.645 s62A.645.62C s62A.645.62D s62A.645.62E",
    "s62C.645.62D s62C.645.62D s62D.645.64A s62D.645.649 s633.62D.62C s633.62C.62D s633.62C.649",
    "s633.645.62D s633.645.62D s633.645.62C s633.645.645 s633.645.645 s635.62D.62D s635.62D.62D",
    "s635.645.645 s634.62D.645 s634.62D.645 s634.62C.64A s634.645.62E s634.645.62E s634.645.645",
    "s634.645.645 s636.62D.649 s636.62E.645 s636.62E.645 s637.645.62D s637.645.62D s637.645.645",
    "s637.645.64A s639.62C.645 s639.645.645 s639.645.645 s639.645.649 s63A.645.645 s63A.645.64A",
    "s63A.645.649 s641.62E.645 s641.62E.645 s642.645.62D s642.645.645 s644.62D.645 s644.62D.64A",
    "s644.62D.649 s644.62C.62C s644.62C.62C s644.62E.645 s644.62E.645 s644.645.62D s644.645.62D",
    "s645.62D.62C s645.62D.645 s645.62D.64A s645.62C.62D s645.62C.645 s645.62E.62C s645.62E.645",
    "r2 s645.62C.62E s647.645.62C s647.645.645 s646.62D.645 s646.62D.649 s646.62C.645",
    "s646.62C.645 s646.62C.649 s646.645.64A s646.645.649 s64A.645.645 s64A.645.645 s628.62E.64A",
    "s62A.62C.64A s62A.62C.649 s62A.62E.64A s62A.62E.649 s62A.645.64A s62A.645.649 s62C.645.64A",
    "s62C.62D.649 s62C.645.649 s633.62E.649 s635.62D.64A s634.62D.64A s636.62D.64A s644.62C.64A",
    "s644.645.64A s64A.62D.64A s64A.62C.64A s64A.645.64A s645.645.64A s642.645.64A s646.62D.64A",
    "s642.645.62D s644.62D.645 s639.645.64A s643.645.64A s646.62C.62D s645.62E.64A s644.62C.645",
    "s643.645.645 s644.62C.645 s646.62C.62D s62C.62D.64A s62D.62C.64A s645.62C.64A s641.645.64A",
    "s628.62D.64A s643.645.645 s639.62C.645 s635.645.645 s633.62E.64A s646.62C.64A r7 k1 r20",
    "s635.644.6D2 s642.644.6D2 s627.644.644.647 s627.643.628.631 s645.62D.645.62F",
    "s635.644.639.645 s631.633.648.644 s639.644.64A.647 s648.633.644.645 s635.644.649",
    "s635.644.649.20.627.644.644.647.20.639.644.64A.647.20.648.633.644.645",
    "s62C.644.20.62C.644.627.644.647 s631.6CC.627.644 k3 d10 s2C s3001 r1 l2.FDD9 s21 s3F",
    "l2.CE01 r7 k10 r1 s2014 s2013 s5F s5F l2.FE0D s7B s7D l2.CE25 l2.CE2B l2.CE33 l2.CE37",
    "l4.CE35 k2 s5B s5D s20.305 s20.305 s20.305 s20.305 s5F s5F s5F s2C s3001 r2 s3B s3A s3F s21",
    "s2014 l2.FE31 s7B s7D l2.CE49 s23 s26 l2.FE37 s2D s3C s3E s3D r1 s5C l2.FE45 s40 r4 s20.64B",
    "s640.64B s20.64C k1 s20.64D r1 s20.64E s640.64E s20.64F s640.64F s20.650 s640.650 s20.651",
    "s640.651 s20.652 s640.652 l2.F85F l2.F860 l2.F861 l2.F862 l2.F863 s626 s626 l2.F866 l2.F867",
    "s628 s628 l2.F86A l2.F86B s62A s62A l2.F86E s62B s62B l2.F871 s62C s62C l2.F874 s62D s62D",
    "l2.F877 s62E s62E l2.F87A l2.F87B l2.F87C l2.F87D l2.F87E s633 s633 l2.F881 s634 s634",
    "l2.F884 s635 s635 l2.F887 s636 s636 l2.F88A s637 s637 l2.F88D s638 s638 l2.F890 s639 s639",
    "l2.F893 s63A s63A s63A s641 s641 s641 l2.F893 s642 s642 l2.F896 s643 s643 l2.F899 s644 s644",
    "l2.F89C s645 s645 l2.F89F s646 s646 l2.F8A2 s647 s647 l2.F8A5 l2.F8A6 l2.F8A7 s64A s64A",
    "s64A s644.622 s644.622 s644.623 s644.623 s644.625 s644.625 s644.627 s644.627 r2 d1 r1",
    "l20.FEE0 l1A.FEC0 l24.FEE0 l2.D5DA s2E l2.CF56 s3001 s30FB s30F2 s30A1 s30A3 s30A5 s30A7",
    "s30A9 s30E3 s30E5 s30E7 s30C3 s30FC s30A2 s30A4 s30A6 s30A8 l2.CECB s30AD s30AF s30B1 s30B3",
    "s30B5 s30B7 s30B9 s30BB s30BD s30BF s30C1 s30C4 s30C6 s30C8 l6.CEBB s30D2 s30D5 s30D8 s30DB",
    "l5.CEB1 s30E4 s30E6 l6.CEAE s30EF s30F3 l2.CF05 r1 l2.EEA1 s11AA s1102 l2.EDF9 l3.EEA4",
    "l6.EDFA s111A l3.EEAB s1121 lA.EEAC r3 l6.EE61 r2 l6.EE63 r2 l6.EE65 r2 l3.EE67 r3 l2.FF3E",
    "sAC s20.304 sA6 sA5 s20A9 r1 s2502 l4.DE59 s25A0 s25CB r11 kC r1 k1A r1 k13 r1 k2 r1 kF r2",
    "kE r22 k7B r5 k3 r4 k2D r3 k58 r1 kD r3 k1 r2F k2E r82 k1D r3 k31 rF k1C r4 k24 r9 k1E r5",
    "k2B r5 k1E r1 k25 r4 kE r2A u28.28 k76 r2 kA r6 u24.28 r4 k24 r4 k28 r8 k34 rB k1 uB.27 r1",
    "uF.27 r1 u7.27 r1 u2.27 r1 kB r1 kF r1 k7 r1 k2 r43 k137 r9 k16 rA k8 r18 k1 l2.104B1 sE6",
    "s299 s253 r1 s2A3 sAB66 s2A5 s2A4 l2.10535 s1D91 s258 s25E s2A9 s264 s262 s260 s29B s127",
    "s29C s267 s284 l2.104EF s26C s1DF04 sA78E s26E s1DF05 s28E s1DF06 sF8 l2.1052D s71 s27A",
    "s1DF08 l2.1052B s280 s2A8 s2A6 sAB67 s2A7 s288 s2C71 r1 s28F l2.10512 s298 l3.105F6 s1DF0A",
    "s1DF1E r45 k6 r2 k1 r1 k2C r1 k2 r3 k1 r2 k17 r1 k48 r8 k9 r30 k13 r1 k2 r5 k21 r3 k1B r5",
    "k1 r40 k38 r4 k14 r2 k32 r1 k2 r5 k8 r1 k3 r1 k1D r2 k3 r4 kA r7 k9 r7 k40 r20 k27 r4 kC r9",
    "k36 r3 k1D r2 k1B r5 k1A r7 k4 rC k7 r50 k49 r37 u33.40 rD k33 r7 k2E r8 kA r126 k1F r1 k2A",
    "r1 k3 r2 k2 r4B k2B r8 k2A r16 k1A r26 k1C r14 k17 r9 k4E r4 k24 r9 k3E r1 k5 rD k19 r7 kA",
    "r6 k35 r1 k12 r8 k27 r9 k60 r1 k14 rB k12 r1 k2F r3E k7 r1 k1 r1 k4 r1 kF r1 kB r6 k3B r5",
    "kA r6 k4 r1 k8 r2 k2 r2 k16 r1 k7 r1 k2 r1 k5 r1 kA r2 k2 r2 k3 r2 k1 r6 k1 r5 k7 r2 k7 r3",
    "k5 r8B k5C r1 k5 r1E k48 r8 kA rA6 k36 r2 k26 r22 k45 rB kA r6 kD r13 k3A r6 kA r36 k1B r2",
    "kF r4 k17 rB9 k3C r64 u20.20 k33 rC k8 r2 k1 r2 k8 r1 k2 r1 k1E r1 k2 r2 kC r9 kA r46 k8 r2",
    "k2E r2 kB r1B k48 r8 k53 rD k49 r7 kA rF6 k9 r1 k2D r1 kE rA k1D r3 k20 r2 k16 r1 kE r49 k7",
    "r1 k2 r1 k2C r3 k1 r1 k2 r1 k9 r8 kA r6 k6 r1 k2 r1 k25 r1 k2 r1 k6 r7 kA r136 k19 r7 k11",
    "r1 k29 r3 k1C r56 k1 rF k32 rD k39B r66 k6F r1 k5 rB kC4 rA4C k63 rD k430 r10 k16 rFAA k247",
    "r21B9 k239 r7 k1F r1 kA r4 k51 r1 kA r6 k1E r2 k6 rA k46 rA kA r1 k7 r1 k15 r5 k13 r2B0",
    "u20.20 k3B r65 k4B r4 k39 r7 k11 r40 k5 rB k2 rE k17F8 r8 k4D6 r2A k9 r22E7 k4 r1 k7 r1 k2",
    "r1 k123 rF k1 r1D k3 r2 k1 rE k4 r8 k18C r904 k6B r5 kD r3 k9 r7 kA r2 k4 d4 r125C k2E r2",
    "k17 r9 k74 r3C kF6 rA k27 r2 k35 s1D157.1D165 s1D158.1D165 s1D158.1D165.1D16E",
    "s1D158.1D165.1D16F s1D158.1D165.1D170 s1D158.1D165.1D171 s1D158.1D165.1D172 kE r8 k40",
    "s1D1B9.1D165 s1D1BA.1D165 s1D1B9.1D165.1D16E s1D1BA.1D165.1D16E s1D1B9.1D165.1D16F",
    "s1D1BA.1D165.1D16F k2A r15 k46 r7A k14 rC k14 rC k57 r9 k19 r87 l1A.1D39F l1A.1D3B9",
    "l1A.1D3D3 l7.1D3ED r1 l12.1D3ED l1A.1D407 l1A.1D421 s61 r1 l2.1D43B r2 s67 r2 l2.1D43B r2",
    "l4.1D43B r1 l8.1D43B l4.1D455 r1 s66 r1 l7.1D455 r1 lB.1D455 l1A.1D46F l1A.1D489 l2.1D4A3",
    "r1 l4.1D4A3 r2 l8.1D4A3 r1 l7.1D4A3 r1 l1A.1D4BD l2.1D4D7 r1 l4.1D4D7 r1 l5.1D4D7 r1 s6F r3",
    "l7.1D4D7 r1 l1A.1D4F1 l1A.1D50B l1A.1D525 l1A.1D53F l1A.1D559 l1A.1D573 l1A.1D58D l1A.1D5A7",
    "l1A.1D5C1 l1A.1D5DB l1A.1D5F5 l1A.1D60F l1A.1D629 s131 s237 r2 l11.1D2F7 s3B8 l7.1D2F7",
    "s2207 l11.1D311 s3C3 l7.1D311 s2202 s3B5 s3B8 s3BA s3C6 s3C1 s3C0 l11.1D331 s3B8 l7.1D331",
    "s2207 l11.1D34B s3C3 l7.1D34B s2202 s3B5 s3B8 s3BA s3C6 s3C1 s3C0 l11.1D36B s3B8 l7.1D36B",
    "s2207 l11.1D385 s3C3 l7.1D385 s2202 s3B5 s3B8 s3BA s3C6 s3C1 s3C0 l11.1D3A5 s3B8 l7.1D3A5",
    "s2207 l11.1D3BF s3C3 l7.1D3BF s2202 s3B5 s3B8 s3BA s3C6 s3C1 s3C0 l11.1D3DF s3B8 l7.1D3DF",
    "s2207 l11.1D3F9 s3C3 l7.1D3F9 s2202 s3B5 s3B8 s3BA s3C6 s3C1 s3C0 s3DD s3DD r2 lA.1D79E",
    "lA.1D7A8 lA.1D7B2 lA.1D7BC lA.1D7C6 k28C rF k5 r1 kF r450 k1F r6 k6 rD5 k7 r1 k11 r2 k7 r1",
    "k2 r1 k5 r5 l9.1DC00 l3.1DBFF lB.1DBFE s44B l2.1DBFB sA689 s4D9 s456 s458 s4E9 s4AF s4CF",
    "l9.1DC21 l2.1DC20 l2.1DC1E s441 l6.1DC1C l2.1DC1B s491 s456 s455 s45F s4AB sA651 s4B1 r21",
    "k1 r70 k2D r3 kE r2 kA r4 k2 r140 k1F r11 k3A r5 k1 r1D0 k2A r2E6 k7 r1 k4 r1 k2 r1 kF r1",
    "kC5 r2 k10 r29 u22.22 k2A r4 kA r4 k2 r311 k44 r4C k3D rC2 l2.1E7D9 s62C s62F r1 s648 s632",
    "s62D s637 s64A l4.1E7C7 s633 s639 s641 s635 s642 s631 s634 l2.1E7EB s62E s630 s636 s638",
    "s63A s66E s6BA s6A1 s66F r1 s628 s62C r1 s647 r2 s62D r1 s64A l4.1E7E7 s633 s639 s641 s635",
    "s642 r1 s634 l2.1E80B s62E r1 s636 r1 s63A r6 s62C r4 s62D r1 s64A r1 s644 r1 s646 s633",
    "s639 r1 s635 s642 r1 s634 r2 s62E r1 s636 r1 s63A r1 s6BA r1 s66F r1 s628 s62C r1 s647 r2",
    "s62D s637 s64A s643 r1 l2.1E827 s633 s639 s641 s635 s642 r1 s634 l2.1E84B s62E r1 s636 s638",
    "s63A s66E r1 s6A1 r1 l2.1E859 s62C s62F l2.1E83D s632 s62D s637 s64A r1 l3.1E847 s633 s639",
    "s641 s635 s642 s631 s634 l2.1E86B s62E s630 s636 s638 s63A r5 s628 s62C s62F r1 s648 s632",
    "s62D s637 s64A r1 l3.1E867 s633 s639 s641 s635 s642 s631 s634 l2.1E88B s62E s630 s636 s638",
    "s63A r34 k2 r10E k2C r4 k64 rC kF r2 kF r1 kF r1 k25 rB s30.2C s31.2C s32.2C s33.2C s34.2C",
    "s35.2C s36.2C s37.2C s38.2C s39.2C k5 s28.61.29 s28.62.29 s28.63.29 s28.64.29 s28.65.29",
    "s28.66.29 s28.67.29 s28.68.29 s28.69.29 s28.6A.29 s28.6B.29 s28.6C.29 s28.6D.29 s28.6E.29",
    "s28.6F.29 s28.70.29 s28.71.29 s28.72.29 s28.73.29 s28.74.29 s28.75.29 s28.76.29 s28.77.29",
    "s28.78.29 s28.79.29 s28.7A.29 s3014.73.3015 s63 s72 s63.64 s77.7A k1 l1A.1F0CF s68.76",
    "s6D.76 s73.64 s73.73 s70.70.76 s77.63 k1A s6D.63 s6D.64 s6D.72 k23 s64.6A k1D r38 k1A",
    "s307B.304B s30B3.30B3 s30B5 rD s624B s5B57 s53CC s30C7 s4E8C s591A s89E3 s5929 s4EA4 s6620",
    "s7121 s6599 s524D s5F8C s518D s65B0 s521D s7D42 s751F s8CA9 s58F0 s5439 s6F14 s6295 s6355",
    "s4E00 s4E09 s904A s5DE6 s4E2D s53F3 s6307 s8D70 s6253 s7981 s7A7A s5408 s6E80 s6709 s6708",
    "s7533 s5272 s55B6 s914D r4 s3014.672C.3015 s3014.4E09.3015 s3014.4E8C.3015 s3014.5B89.3015",
    "s3014.70B9.3015 s3014.6253.3015 s3014.76D7.3015 s3014.52DD.3015 s3014.6557.3015 r7 s5F97",
    "s53EF rE k6 r9A k3D8 r4 k11 r3 kD r3 k77 r4 k5F r6 kC r4 k1 rF kC r4 k38 r8 kA r6 k28 r8",
    "k1E r2 k2 r4E k154 rC kE r2 kD r3 k9 r7 k2E r1 k7 r8 kE r4 k9 r7 k9 r7 k93 r1 k37 r25",
    "lA.1FBC0 r406 kA6E0 r20 k103A r6 kDE r2 k1682 rE k1D31 rC1F s4E3D s4E38 s4E41 s20122 s4F60",
    "s4FAE s4FBB s5002 s507A s5099 s50E7 s50CF s349E s2063A s514D s5154 s5164 s5177 s2051C s34B9",
    "s5167 s518D s2054B s5197 s51A4 s4ECC s51AC s51B5 s291DF s51F5 s5203 s34DF s523B s5246 s5272",
    "s5277 s3515 s52C7 s52C9 s52E4 s52FA l2.2A524 s5317 s5349 s5351 s535A s5373 s537D s537F",
    "s537F s537F s20A2C s7070 s53CA s53DF s20B63 s53EB s53F1 s5406 s549E s5438 s5448 s5468 s54A2",
    "s54F6 s5510 s5553 s5563 s5584 s5584 s5599 s55AB s55B3 s55C2 s5716 s5606 s5717 s5651 s5674",
    "s5207 s58EE s57CE s57F4 s580D s578B s5832 s5831 s58AC s214E4 s58F2 s58F7 s5906 s591A s5922",
    "s5962 s216A8 s216EA s59EC s5A1B s5A27 s59D8 s5A66 s36EE r1 s5B08 s5B3E s5B3E s219C8 s5BC3",
    "s5BD8 s5BE7 s5BF3 s21B18 s5BFF s5C06 r1 s5C22 s3781 s5C60 s5C6E s5CC0 s5C8D s21DE4 s5D43",
    "s21DE6 s5D6E s5D6B s5D7C l2.29AA0 s382F s5DFD s5E28 s5E3D s5E69 s3862 s22183 s387C s5EB0",
    "s5EB3 s5EB6 s5ECA s2A392 s5EFE s22331 s22331 s8201 s5F22 s5F22 s38C7 s232B8 s261DA s5F62",
    "s5F6B s38E3 s5F9A s5FCD s5FD7 s5FF9 s6081 s393A s391C s6094 s226D4 s60C7 s6148 s614C s614E",
    "s614C s617A s618E s61B2 s61A4 s61AF s61DE s61F2 s61F6 s6210 s621B s625D s62B1 s62D4 s6350",
    "s22B0C s633D s62FC s6368 s6383 s63E4 s22BF1 s6422 s63C5 s63A9 s3A2E s6469 s647E s649D s6477",
    "s3A6C s654F s656C s2300A s65E3 s66F8 s6649 s3B19 s6691 s3B08 s3AE4 s5192 s5195 s6700 s669C",
    "s80AD s43D9 s6717 s671B s6721 s675E s6753 s233C3 s3B49 s67FA s6785 s6852 s6885 s2346D s688E",
    "s681F s6914 s3B9D s6942 s69A3 s69EA s6AA8 s236A3 s6ADB s3C18 s6B21 s238A7 s6B54 s3C4E s6B72",
    "s6B9F l2.28D3B s23A8D s21D0B s23AFA s6C4E s23CBC s6CBF s6CCD s6C67 s6D16 s6D3E s6D77 s6D41",
    "s6D69 s6D78 s6D85 s23D1E s6D34 s6E2F s6E6E s3D33 s6ECB s6EC7 s23ED1 s6DF9 s6F6E s23F5E",
    "s23F8E s6FC6 s7039 s701E s701B s3D96 s704A s707D s7077 s70AD s20525 s7145 s24263 s719C r1",
    "s7228 s7235 s7250 s24608 s7280 s7295 s24735 s24814 s737A s738B s3EAC s73A5 s3EB8 s3EB8",
    "s7447 s745C s7471 s7485 s74CA s3F1B s7524 s24C36 s753E s24C92 s7570 s2219F s7610 s24FA1",
    "s24FB8 s25044 s3FFC s4008 s76F4 s250F3 s250F2 s25119 s25133 l2.28227 s771F s774A s4039",
    "s778B s4046 s4096 s2541D s784E s788C s78CC s40E3 s25626 s7956 s2569A s256C5 s798F s79EB",
    "s412F s7A40 s7A4A s7A4F s2597C s25AA7 s25AA7 r1 s4202 s25BAB s7BC6 s7BC9 s4227 s25C80 s7CD2",
    "s42A0 s7CE8 s7CE3 s7D00 s25F86 s7D63 s4301 s7DC7 s7E02 s7E45 s4334 s26228 s26247 s4359",
    "s262D9 s7F7A s2633E s7F95 s7FFA s8005 s264DA s26523 s8060 s265A8 s8070 s2335F s43D5 s80B2",
    "s8103 s440B s813E s5AB5 s267A7 s267B5 s23393 s2339C s8201 s8204 s8F9E s446B s8291 s828B",
    "s829D s52B3 s82B1 s82B3 s82BD s82E6 s26B3C s82E5 s831D s8363 s83AD s8323 s83BD s83E7 s8457",
    "s8353 s83CA s83CC s83DC s26C36 s26D6B s26CD5 s452B s84F1 s84F3 s8516 s273CA s8564 s26F2C",
    "s455D s4561 s26FB1 s270D2 s456B s8650 s865C s8667 s8669 s86A9 s8688 s870E s86E2 s8779 s8728",
    "s876B s8786 r1 s87E1 s8801 s45F9 s8860 s8863 s27667 s88D7 s88DE s4635 s88FA s34BB s278AE",
    "s27966 s46BE s46C7 s8AA0 s8AED s8B8A s8C55 s27CA8 s8CAB s8CC1 s8D1B s8D77 s27F2F s20804",
    "s8DCB s8DBC s8DF0 s208DE s8ED4 s8F38 s285D2 s285ED s9094 s90F1 s9111 s2872E s911B s9238",
    "l2.26711 s927C s93F9 s9415 s28BFA s958B s4995 s95B7 s28D77 s49E6 s96C3 s5DB2 s9723 s29145",
    "s2921A s4A6E s4A76 s97E0 s2940A s4AB2 s29496 s980B s980B s9829 s295B6 s98E2 s4B33 s9929",
    "s99A7 s99C2 s99FE s4BCE s29B30 s9B12 s9C40 s9CFD s4CCE s4CED s9D67 s2A0CE s4CF8 s2A105",
    "s2A20E s2A291 s9EBB s4D56 s9EF9 s9EFE s9F05 s9F0F s9F16 s9F3B s2A600 r5E2 k134B r5 k1060",
    "rADD50 dF0 r2FE10"]

/-- How the characters of a run are read. In a run of pairs each second one is kept, and the one
before it counts as it. -/
inductive Mapping where
  | kept
  | dropped
  | refused
  | paired
  | raised (distance : Nat)
  | lowered (distance : Nat)
  | spelled (points : List Nat)
  deriving DecidableEq, Repr

namespace Mapping

def ofWord? : Word → Option (Nat × Mapping)
  | ⟨'k', [n]⟩ => some (n, .kept)
  | ⟨'d', [n]⟩ => some (n, .dropped)
  | ⟨'r', [n]⟩ => some (n, .refused)
  | ⟨'p', [n]⟩ => some (2 * n, .paired)
  | ⟨'u', [n, distance]⟩ => some (n, .raised distance)
  | ⟨'l', [n, distance]⟩ => some (n, .lowered distance)
  | ⟨'s', points⟩ => some (1, .spelled points)
  | _ => none

/-- What the character at a place in the run counts as. -/
def image? (m : Mapping) (place : Nat) (c : Char) : Option (List Char) :=
  match m with
  | .kept => some [c]
  | .dropped => some []
  | .refused => none
  | .paired => some [if place % 2 = 0 then Char.ofNat (c.toNat + 1) else c]
  | .raised distance => some [Char.ofNat (c.toNat + distance)]
  | .lowered distance => some [Char.ofNat (c.toNat - distance)]
  | .spelled points => some (points.map Char.ofNat)

end Mapping

def mappingRuns : Runs Mapping := (words mappingLines).filterMap Mapping.ofWord?

def mappedChar? (c : Char) : Option (List Char) :=
  match mappingRuns.valueAt? c.toNat with
  | some (place, m) => m.image? place c
  | none => none

/-- A text with a character that is refused counts as nothing. -/
def mapped? (s : List Char) : Option (List Char) := (s.mapM mappedChar?).map List.flatten

/-- A character that counts as itself. -/
def isKept (c : Char) : Bool := mappedChar? c == some [c]

end GuidAudit
