import GuidAudit.Text.Basic

namespace GuidAudit

/-- A letter, and the hexadecimal numbers behind it with dots between them. -/
structure Word where
  letter : Char
  numbers : List Nat
  deriving DecidableEq, Repr

def Word.ofChars? : List Char → Option Word
  | [] => none
  | letter :: s => ((cutAt (· == '.') s).mapM fun digits => numberIn? 16 digits 0).map (mk letter)

/-- The words of some lines, which have single spaces between them. -/
def words (lines : List String) : List Word :=
  lines.flatMap fun line => (cutAt (· == ' ') line.toList).filterMap Word.ofChars?

/-- The values of the code points from zero on: how many in a row share one, and which one. -/
abbrev Runs (α : Type) := List (Nat × α)

/-- The value of a code point, and how many stand before it in its run. -/
def Runs.valueAt? {α : Type} : Runs α → Nat → Option (Nat × α)
  | [], _ => none
  | (length, a) :: runs, n => if n < length then some (n, a) else valueAt? runs (n - length)

def Runs.valueAt {α : Type} (default : α) (runs : Runs α) (c : Char) : α :=
  match runs.valueAt? c.toNat with
  | some (_, a) => a
  | none => default

/-- Each word gives a class and how many characters in a row have it. What cannot stand in a host
may be in any run. -/
def combiningLines : List String :=
  ["c0.300 cE6.15 cE8.1 cDC.4 cE8.1 cD8.1 cDC.5 cCA.2 cDC.4 cCA.2 cDC.B c1.5 cDC.4 cE6.A cDC.3",
    "cE6.3 cDC.3 cE6.3 cDC.4 cE6.1 cE8.1 cDC.2 cE6.1 cE9.1 cEA.2 cE9.1 cEA.2 cE9.1 cE6.E c0.112",
    "cE6.5 c0.109 cDC.1 cE6.4 cDC.1 cE6.3 cDE.1 cDC.1 cE6.6 cDC.6 cE6.2 cDC.1 cE6.2 cDE.1 cE4.1",
    "cE6.1 cA.1 cB.1 cC.1 cD.1 cE.1 cF.1 c10.1 c11.1 c12.1 c13.2 c14.1 c15.1 c16.1 c0.1 c17.1",
    "c0.1 c18.1 c19.1 c0.1 cE6.1 cDC.1 c0.1 c12.9 c0.40 cE6.8 c1E.1 c1F.1 c20.1 c0.30 c1B.1",
    "c1C.1 c1D.1 c1E.1 c1F.1 c20.1 c21.1 c22.1 cE6.2 cDC.2 cE6.5 cDC.1 cE6.2 cDC.1 c0.10 c23.1",
    "c0.65 cE6.8 c0.1 cE6.4 cDC.1 cE6.1 c0.2 cE6.2 c0.1 cDC.1 cE6.2 cDC.1 c0.23 c24.1 c0.1E",
    "cE6.1 cDC.1 cE6.2 cDC.1 cE6.2 cDC.3 cE6.1 cDC.2 cE6.1 cDC.1 cE6.3 cDC.1 cE6.1 cDC.1 cE6.1",
    "cDC.1 cE6.1 cDC.1 cE6.4 c0.9E cE6.7 cDC.1 cE6.1 c0.9 cDC.1 c0.18 cE6.4 c0.1 cE6.9 c0.1",
    "cE6.3 c0.1 cE6.7 c0.29 cDC.5 c0.3A cE6.1 cDC.3 cE6.4 c0.2A cE6.5 cDC.5 cE6.F cDC.1 cE6.2",
    "cDC.1 cE6.2 cDC.1 cE6.3 cDC.3 c1B.1 c1C.1 c1D.1 cE6.3 cDC.1 cE6.2 cDC.2 cE6.5 c0.3C c7.1",
    "c0.10 c9.1 c0.3 cE6.1 cDC.1 cE6.2 c0.67 c7.1 c0.10 c9.1 c0.30 cE6.3 c0.3B c7.2 c0.F c9.4",
    "c0.6B c7.1 c0.10 c9.3 c0.6C c7.1 c0.10 c9.8 c0.78 c9.3 c0.6C c7.1 c0.10 c9.8 c54.1 c5B.2",
    "c0.64 c7.1 c0.10 c9.8 c0.66 c9.2 c0.10 c9.1 c0.7C c9.5 c0.69 c67.2 c9.5 c0.9 c6B.4 c0.6C",
    "c76.2 c9.1 c0.D c7A.4 c0.4C cDC.2 c0.1B cDC.1 c0.1 cDC.1 c0.1 cD8.1 c0.37 c81.1 c82.2 c84.6",
    "c82.4 c0.2 c82.2 cE6.2 c9.1 c0.1 cE6.2 c0.3E cDC.1 c0.70 c7.1 c0.1 c9.2 c0.52 cDC.1 c0.2CF",
    "cE6.3 c0.3B4 c9.B c0.15 c9.1 c0.9D c9.1 c0.A cE6.3 c0.C9 cE4.1 c0.8F cDE.1 cE6.1 cDC.5",
    "c0.D7 cE6.1 cDC.1 c0.47 c9.1 c0.14 cE6.A cDC.1 c0.30 cE6.5 cDC.6 cE6.2 cDC.1 c0.1 cDC.2",
    "cE6.2 cDC.2 cE6.5 cDC.1 cE6.35 c0.34 c7.1 c0.F c9.1 c0.26 cE6.1 cDC.1 cE6.7 c0.36 c9.2",
    "c0.3A c7.1 c0.B c9.A c0.3B c7.4 c0.95 cE6.3 c0.1 c1.1 cDC.5 cE6.2 cDC.4 cE6.1 c0.1 c1.7",
    "c0.4 cDC.1 c0.6 cE6.1 c0.3 cE6.2 c0.C6 cE6.2 cDC.1 cE6.7 cDC.1 cE6.2 cEA.1 cD6.1 cDC.1",
    "cCA.1 cE6.25 cE8.1 cE4.2 cDC.1 cDA.1 cE6.1 cE9.1 cDC.1 cE6.1 cDC.2 c0.2CF cE6.2 c1.2 cE6.4",
    "c1.3 cE6.2 c0.4 cE6.1 c0.3 c1.2 cE6.1 cDC.1 cE6.1 c1.2 cDC.4 cE6.14 c0.BEB cE6.4 c0.8C c9.1",
    "c0.60 cE6.20 c0.22A cDA.1 cE4.1 cE8.1 cDE.1 cE0.2 c0.69 c8.4 c0.75D2 cE6.1 c0.4 cE6.A c0.20",
    "cE6.2 c0.50 cE6.2 c0.114 c9.1 c0.25 c9.4 c0.94 c9.1 c0.1B cE6.12 c0.39 cDC.3 c0.25 c9.C",
    "c0.54 c7.1 c0.C c9.1 c0.EF cE6.1 c0.1 cE6.2 cDC.1 c0.2 cE6.2 c0.5 cE6.2 c0.1 cE6.1 c0.34",
    "c9.B c0.EC c9.3 c0.4F2E c1A.94 c0.26E cE6.7 cDC.7 cE6.17 c0.3B8 cDC.83 c0.60 cDC.1 c0.95",
    "cE6.A c0.68D cDC.1 c0.1 cE6.1 c0.28 cE6.1 c1.1 cDC.5 c9.1 c0.A5 cE6.1 cDC.5 c0.239 cE6.C",
    "c0.17B cE6.2 c0.50 cDC.3 c0.46 cDC.2 cE6.3 cDC.1 cE6.1 cDC.4 c0.31 cE6.1 cDC.1 cE6.1 cDC.1",
    "c0.C0 c9.1 c0.29 c9.1 c0.E c9.1 c0.39 c9.1 c7.1 c0.45 cE6.3 c0.30 c9.3 c0.3D c7.1 c0.4C",
    "c9.1 c0.9 c7.1 c0.6A c9.1 c7.1 c0.B2 c7.1 c9.6 c0.4B c7.2 c0.10 c9.3 c0.16 cE6.9A c0.42",
    "c9.1 c0.3 c7.1 c0.17 cE6.1 c0.63 c9.1 c7.1 c0.FB c9.1 c7.1 c0.7E c9.1 c0.76 c9.1 c7.1 c0.73",
    "c9.5 c0.109 c9.1 c7.1 c0.102 c9.2 c0.4 c7.1 c0.9C c9.1 c0.53 c9.1 c0.12 c9.9 c0.49 c9.1",
    "c0.1A5 c9.1 c0.102 c7.1 c0.1 c9.2 c0.51 c9.1 c0.1A9 c9.2 c0.4BAD c1.5 c0.3B cE6.7 c0.4B9",
    "c6.10 c0.4C9E c1.1 c0.14C6 cD8.2 c1.3 c0.3 cE2.1 cD8.D cDC.8 c0.2 cE6.5 cDC.2 c0.1E cE6.4",
    "c0.94 cE6.3 c0.DBB cE6.100 c0.30 cE6.7 c0.177 cE6.12 c0.2C cE6.4 c0.1FC cE8.2 cDC.1 cE6.1",
    "c0.3E0 cDC.52 c0.22 cE6.6 c7.1 c0.F16B5"]

def combiningRuns : Runs Nat :=
  (words combiningLines).filterMap fun word =>
    match word.numbers with
    | [order, n] => some (n, order)
    | _ => none

/-- Marks on one character stand in the order of their classes. Class zero is for what is no such
mark, or keeps its place. -/
def combiningClass (c : Char) : Nat := combiningRuns.valueAt 0 c

/-- Each word gives a character and the two that it stands for. -/
def compositeLines : List String :=
  ["wE0.61.300 wE1.61.301 wE2.61.302 wE3.61.303 wE4.61.308 wE5.61.30A wE7.63.327 wE8.65.300",
    "wE9.65.301 wEA.65.302 wEB.65.308 wEC.69.300 wED.69.301 wEE.69.302 wEF.69.308 wF1.6E.303",
    "wF2.6F.300 wF3.6F.301 wF4.6F.302 wF5.6F.303 wF6.6F.308 wF9.75.300 wFA.75.301 wFB.75.302",
    "wFC.75.308 wFD.79.301 wFF.79.308 w101.61.304 w103.61.306 w105.61.328 w107.63.301",
    "w109.63.302 w10B.63.307 w10D.63.30C w10F.64.30C w113.65.304 w115.65.306 w117.65.307",
    "w119.65.328 w11B.65.30C w11D.67.302 w11F.67.306 w121.67.307 w123.67.327 w125.68.302",
    "w129.69.303 w12B.69.304 w12D.69.306 w12F.69.328 w135.6A.302 w137.6B.327 w13A.6C.301",
    "w13C.6C.327 w13E.6C.30C w144.6E.301 w146.6E.327 w148.6E.30C w14D.6F.304 w14F.6F.306",
    "w151.6F.30B w155.72.301 w157.72.327 w159.72.30C w15B.73.301 w15D.73.302 w15F.73.327",
    "w161.73.30C w163.74.327 w165.74.30C w169.75.303 w16B.75.304 w16D.75.306 w16F.75.30A",
    "w171.75.30B w173.75.328 w175.77.302 w177.79.302 w17A.7A.301 w17C.7A.307 w17E.7A.30C",
    "w1A1.6F.31B w1B0.75.31B w1CE.61.30C w1D0.69.30C w1D2.6F.30C w1D4.75.30C w1D6.FC.304",
    "w1D8.FC.301 w1DA.FC.30C w1DC.FC.300 w1DF.E4.304 w1E1.227.304 w1E3.E6.304 w1E7.67.30C",
    "w1E9.6B.30C w1EB.6F.328 w1ED.1EB.304 w1EF.292.30C w1F0.6A.30C w1F5.67.301 w1F9.6E.300",
    "w1FB.E5.301 w1FD.E6.301 w1FF.F8.301 w201.61.30F w203.61.311 w205.65.30F w207.65.311",
    "w209.69.30F w20B.69.311 w20D.6F.30F w20F.6F.311 w211.72.30F w213.72.311 w215.75.30F",
    "w217.75.311 w219.73.326 w21B.74.326 w21F.68.30C w227.61.307 w229.65.327 w22B.F6.304",
    "w22D.F5.304 w22F.6F.307 w231.22F.304 w233.79.304 w390.3CA.301 w3AC.3B1.301 w3AD.3B5.301",
    "w3AE.3B7.301 w3AF.3B9.301 w3B0.3CB.301 w3CA.3B9.308 w3CB.3C5.308 w3CC.3BF.301 w3CD.3C5.301",
    "w3CE.3C9.301 w439.438.306 w450.435.300 w451.435.308 w453.433.301 w457.456.308 w45C.43A.301",
    "w45D.438.300 w45E.443.306 w477.475.30F w4C2.436.306 w4D1.430.306 w4D3.430.308 w4D7.435.306",
    "w4DB.4D9.308 w4DD.436.308 w4DF.437.308 w4E3.438.304 w4E5.438.308 w4E7.43E.308 w4EB.4E9.308",
    "w4ED.44D.308 w4EF.443.304 w4F1.443.308 w4F3.443.30B w4F5.447.308 w4F9.44B.308 w622.627.653",
    "w623.627.654 w624.648.654 w625.627.655 w626.64A.654 w6C0.6D5.654 w6C2.6C1.654 w6D3.6D2.654",
    "w929.928.93C w931.930.93C w934.933.93C w9CB.9C7.9BE w9CC.9C7.9D7 wB48.B47.B56 wB4B.B47.B3E",
    "wB4C.B47.B57 wB94.B92.BD7 wBCA.BC6.BBE wBCB.BC7.BBE wBCC.BC6.BD7 wC48.C46.C56 wCC0.CBF.CD5",
    "wCC7.CC6.CD5 wCC8.CC6.CD6 wCCA.CC6.CC2 wCCB.CCA.CD5 wD4A.D46.D3E wD4B.D47.D3E wD4C.D46.D57",
    "wDDA.DD9.DCA wDDC.DD9.DCF wDDD.DDC.DCA wDDE.DD9.DDF w1026.1025.102E w1B06.1B05.1B35",
    "w1B08.1B07.1B35 w1B0A.1B09.1B35 w1B0C.1B0B.1B35 w1B0E.1B0D.1B35 w1B12.1B11.1B35",
    "w1B3B.1B3A.1B35 w1B3D.1B3C.1B35 w1B40.1B3E.1B35 w1B41.1B3F.1B35 w1B43.1B42.1B35",
    "w1E01.61.325 w1E03.62.307 w1E05.62.323 w1E07.62.331 w1E09.E7.301 w1E0B.64.307 w1E0D.64.323",
    "w1E0F.64.331 w1E11.64.327 w1E13.64.32D w1E15.113.300 w1E17.113.301 w1E19.65.32D",
    "w1E1B.65.330 w1E1D.229.306 w1E1F.66.307 w1E21.67.304 w1E23.68.307 w1E25.68.323 w1E27.68.308",
    "w1E29.68.327 w1E2B.68.32E w1E2D.69.330 w1E2F.EF.301 w1E31.6B.301 w1E33.6B.323 w1E35.6B.331",
    "w1E37.6C.323 w1E39.1E37.304 w1E3B.6C.331 w1E3D.6C.32D w1E3F.6D.301 w1E41.6D.307",
    "w1E43.6D.323 w1E45.6E.307 w1E47.6E.323 w1E49.6E.331 w1E4B.6E.32D w1E4D.F5.301 w1E4F.F5.308",
    "w1E51.14D.300 w1E53.14D.301 w1E55.70.301 w1E57.70.307 w1E59.72.307 w1E5B.72.323",
    "w1E5D.1E5B.304 w1E5F.72.331 w1E61.73.307 w1E63.73.323 w1E65.15B.307 w1E67.161.307",
    "w1E69.1E63.307 w1E6B.74.307 w1E6D.74.323 w1E6F.74.331 w1E71.74.32D w1E73.75.324",
    "w1E75.75.330 w1E77.75.32D w1E79.169.301 w1E7B.16B.308 w1E7D.76.303 w1E7F.76.323",
    "w1E81.77.300 w1E83.77.301 w1E85.77.308 w1E87.77.307 w1E89.77.323 w1E8B.78.307 w1E8D.78.308",
    "w1E8F.79.307 w1E91.7A.302 w1E93.7A.323 w1E95.7A.331 w1E96.68.331 w1E97.74.308 w1E98.77.30A",
    "w1E99.79.30A w1EA1.61.323 w1EA3.61.309 w1EA5.E2.301 w1EA7.E2.300 w1EA9.E2.309 w1EAB.E2.303",
    "w1EAD.1EA1.302 w1EAF.103.301 w1EB1.103.300 w1EB3.103.309 w1EB5.103.303 w1EB7.1EA1.306",
    "w1EB9.65.323 w1EBB.65.309 w1EBD.65.303 w1EBF.EA.301 w1EC1.EA.300 w1EC3.EA.309 w1EC5.EA.303",
    "w1EC7.1EB9.302 w1EC9.69.309 w1ECB.69.323 w1ECD.6F.323 w1ECF.6F.309 w1ED1.F4.301",
    "w1ED3.F4.300 w1ED5.F4.309 w1ED7.F4.303 w1ED9.1ECD.302 w1EDB.1A1.301 w1EDD.1A1.300",
    "w1EDF.1A1.309 w1EE1.1A1.303 w1EE3.1A1.323 w1EE5.75.323 w1EE7.75.309 w1EE9.1B0.301",
    "w1EEB.1B0.300 w1EED.1B0.309 w1EEF.1B0.303 w1EF1.1B0.323 w1EF3.79.300 w1EF5.79.323",
    "w1EF7.79.309 w1EF9.79.303 w1F00.3B1.313 w1F01.3B1.314 w1F02.1F00.300 w1F03.1F01.300",
    "w1F04.1F00.301 w1F05.1F01.301 w1F06.1F00.342 w1F07.1F01.342 w1F10.3B5.313 w1F11.3B5.314",
    "w1F12.1F10.300 w1F13.1F11.300 w1F14.1F10.301 w1F15.1F11.301 w1F20.3B7.313 w1F21.3B7.314",
    "w1F22.1F20.300 w1F23.1F21.300 w1F24.1F20.301 w1F25.1F21.301 w1F26.1F20.342 w1F27.1F21.342",
    "w1F30.3B9.313 w1F31.3B9.314 w1F32.1F30.300 w1F33.1F31.300 w1F34.1F30.301 w1F35.1F31.301",
    "w1F36.1F30.342 w1F37.1F31.342 w1F40.3BF.313 w1F41.3BF.314 w1F42.1F40.300 w1F43.1F41.300",
    "w1F44.1F40.301 w1F45.1F41.301 w1F50.3C5.313 w1F51.3C5.314 w1F52.1F50.300 w1F53.1F51.300",
    "w1F54.1F50.301 w1F55.1F51.301 w1F56.1F50.342 w1F57.1F51.342 w1F60.3C9.313 w1F61.3C9.314",
    "w1F62.1F60.300 w1F63.1F61.300 w1F64.1F60.301 w1F65.1F61.301 w1F66.1F60.342 w1F67.1F61.342",
    "w1F70.3B1.300 w1F72.3B5.300 w1F74.3B7.300 w1F76.3B9.300 w1F78.3BF.300 w1F7A.3C5.300",
    "w1F7C.3C9.300 w1FB0.3B1.306 w1FB1.3B1.304 w1FB6.3B1.342 w1FC6.3B7.342 w1FD0.3B9.306",
    "w1FD1.3B9.304 w1FD2.3CA.300 w1FD6.3B9.342 w1FD7.3CA.342 w1FE0.3C5.306 w1FE1.3C5.304",
    "w1FE2.3CB.300 w1FE4.3C1.313 w1FE5.3C1.314 w1FE6.3C5.342 w1FE7.3CB.342 w1FF6.3C9.342",
    "w219A.2190.338 w219B.2192.338 w21AE.2194.338 w21CD.21D0.338 w21CE.21D4.338 w21CF.21D2.338",
    "w2204.2203.338 w2209.2208.338 w220C.220B.338 w2224.2223.338 w2226.2225.338 w2241.223C.338",
    "w2244.2243.338 w2247.2245.338 w2249.2248.338 w2260.3D.338 w2262.2261.338 w226D.224D.338",
    "w226E.3C.338 w226F.3E.338 w2270.2264.338 w2271.2265.338 w2274.2272.338 w2275.2273.338",
    "w2278.2276.338 w2279.2277.338 w2280.227A.338 w2281.227B.338 w2284.2282.338 w2285.2283.338",
    "w2288.2286.338 w2289.2287.338 w22AC.22A2.338 w22AD.22A8.338 w22AE.22A9.338 w22AF.22AB.338",
    "w22E0.227C.338 w22E1.227D.338 w22E2.2291.338 w22E3.2292.338 w22EA.22B2.338 w22EB.22B3.338",
    "w22EC.22B4.338 w22ED.22B5.338 w304C.304B.3099 w304E.304D.3099 w3050.304F.3099",
    "w3052.3051.3099 w3054.3053.3099 w3056.3055.3099 w3058.3057.3099 w305A.3059.3099",
    "w305C.305B.3099 w305E.305D.3099 w3060.305F.3099 w3062.3061.3099 w3065.3064.3099",
    "w3067.3066.3099 w3069.3068.3099 w3070.306F.3099 w3071.306F.309A w3073.3072.3099",
    "w3074.3072.309A w3076.3075.3099 w3077.3075.309A w3079.3078.3099 w307A.3078.309A",
    "w307C.307B.3099 w307D.307B.309A w3094.3046.3099 w309E.309D.3099 w30AC.30AB.3099",
    "w30AE.30AD.3099 w30B0.30AF.3099 w30B2.30B1.3099 w30B4.30B3.3099 w30B6.30B5.3099",
    "w30B8.30B7.3099 w30BA.30B9.3099 w30BC.30BB.3099 w30BE.30BD.3099 w30C0.30BF.3099",
    "w30C2.30C1.3099 w30C5.30C4.3099 w30C7.30C6.3099 w30C9.30C8.3099 w30D0.30CF.3099",
    "w30D1.30CF.309A w30D3.30D2.3099 w30D4.30D2.309A w30D6.30D5.3099 w30D7.30D5.309A",
    "w30D9.30D8.3099 w30DA.30D8.309A w30DC.30DB.3099 w30DD.30DB.309A w30F4.30A6.3099",
    "w30F7.30EF.3099 w30F8.30F0.3099 w30F9.30F1.3099 w30FA.30F2.3099 w30FE.30FD.3099",
    "w1109A.11099.110BA w1109C.1109B.110BA w110AB.110A5.110BA w1112E.11131.11127",
    "w1112F.11132.11127 w1134B.11347.1133E w1134C.11347.11357 w114BB.114B9.114BA",
    "w114BC.114B9.114B0 w114BE.114B9.114BD w115BA.115B8.115AF w115BB.115B9.115AF",
    "w11938.11935.11930"]

structure Composite where
  whole : Char
  first : Char
  second : Char
  deriving DecidableEq, Repr

def Composite.ofWord? : Word → Option Composite
  | ⟨_, [whole, first, second]⟩ => some ⟨Char.ofNat whole, Char.ofNat first, Char.ofNat second⟩
  | _ => none

def composites : List Composite := (words compositeLines).filterMap Composite.ofWord?

namespace Syllable

def firstConsonant : Nat := 0x1100

def firstVowel : Nat := 0x1161

/-- The first letter that can end a syllable has the number after this one. -/
def noEnding : Nat := 0x11A7

def firstSyllable : Nat := 0xAC00

def consonants : Nat := 19

def vowels : Nat := 21

/-- How many endings there are, none among them. -/
def endings : Nat := 28

/-- The last letter is taken off; what is left may be a syllable again. -/
def parts? (n : Nat) : Option (Nat × Nat) :=
  let index := n - firstSyllable
  if n < firstSyllable ∨ consonants * vowels * endings ≤ index then none
  else if index % endings = 0 then
    some (firstConsonant + index / (vowels * endings), firstVowel + index / endings % vowels)
  else some (n - index % endings, noEnding + index % endings)

def whole? (first second : Nat) : Option Nat :=
  let consonant := first - firstConsonant
  let vowel := second - firstVowel
  let index := first - firstSyllable
  let ending := second - noEnding
  if firstConsonant ≤ first ∧ consonant < consonants ∧ firstVowel ≤ second ∧ vowel < vowels then
    some (firstSyllable + (consonant * vowels + vowel) * endings)
  else if firstSyllable ≤ first ∧ index < consonants * vowels * endings ∧ index % endings = 0 ∧
      noEnding < second ∧ ending < endings then
    some (first + ending)
  else none

end Syllable

def parts (c : Char) : List Char :=
  match composites.find? fun composite => composite.whole = c with
  | some composite => [composite.first, composite.second]
  | none =>
    match Syllable.parts? c.toNat with
    | some (first, second) => [Char.ofNat first, Char.ofNat second]
    | none => [c]

def whole? (first second : Char) : Option Char :=
  match composites.find? fun composite => composite.second = second ∧ composite.first = first with
  | some composite => some composite.whole
  | none => (Syllable.whole? first.toNat second.toNat).map Char.ofNat

/-- Takes every character apart. The first part of one may stand for two others again, but then
theirs do not. -/
def decompose (s : List Char) : List Char := (s.flatMap parts).flatMap parts

/-- Puts a mark before those that follow it, but after those of a lower class. -/
def insertMark (c : Char) : List Char → List Char
  | [] => [c]
  | d :: s =>
    if 0 < combiningClass d && combiningClass d < combiningClass c then d :: insertMark c s
    else c :: d :: s

/-- Sorts the marks between two other characters; equal classes keep their order. -/
def sortMarks (s : List Char) : List Char := s.foldr insertMark []

/-- A mark can be joined over marks of lower classes only, and any other character over none. -/
def isWithinReach (between : List Char) (c : Char) : Bool :=
  match between with
  | [] => true
  | mark :: _ => combiningClass mark < combiningClass c

/-- Joins to a character what follows it, over the marks in between, of which the last is first. -/
def composeOnto (base : Char) (between : List Char) : List Char → List Char
  | [] => base :: between.reverse
  | c :: s =>
    match if isWithinReach between c then whole? base c else none with
    | some whole => composeOnto whole between s
    | none =>
      if combiningClass c = 0 then base :: between.reverse ++ composeOnto c [] s
      else composeOnto base (c :: between) s

def compose : List Char → List Char
  | [] => []
  | c :: s => composeOnto c [] s

/-- The one spelling of a text. -/
def normalized (s : List Char) : List Char := compose (sortMarks (decompose s))

end GuidAudit
