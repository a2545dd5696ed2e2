import DirectionField.Reference
/-!
# An adaptive method of eighth order

An embedded Runge-Kutta method of twelve stages, with an error estimate that combines one of fifth
and one of third order, and a polynomial of seventh order between the ends of a step, for which
three more stages are computed. Steps are as wide as the tolerance admits; the method stops early
where they would fall below the resolution of the abscissa.
-/

namespace DirectionField.EighthOrder

/-! ## Coefficients -/

/-- The places of the stages after the first in a step. -/
def places : List Float :=
  [0.526001519587677318785587544488e-1, 0.789002279381515978178381316732e-1,
    0.118350341907227396726757197510, 0.281649658092772603273242802490,
    0.333333333333333333333333333333, 0.25, 0.307692307692307692307692307692,
    0.651282051282051282051282051282, 0.6, 0.857142857142857142857142857142, 1.0]

/-- The weights of the earlier stages in each stage after the first. -/
def weights : List (List Float) :=
  [
    [5.26001519587677318785587544488e-2],
    [1.97250569845378994544595329183e-2, 5.91751709536136983633785987549e-2],
    [2.95875854768068491816892993775e-2, 0.0, 8.87627564304205475450678981324e-2],
    [2.41365134159266685502369798665e-1, 0.0, -8.84549479328286085344864962717e-1,
    9.24834003261792003115737966543e-1],
    [3.7037037037037037037037037037e-2, 0.0, 0.0, 1.70828608729473871279604482173e-1,
    1.25467687566822425016691814123e-1],
    [3.7109375e-2, 0.0, 0.0, 1.70252211019544039314978060272e-1,
    6.02165389804559606850219397283e-2, -1.7578125e-2],
    [3.70920001185047927108779319836e-2, 0.0, 0.0, 1.70383925712239993810214054705e-1,
    1.07262030446373284651809199168e-1, -1.53194377486244017527936158236e-2,
    8.27378916381402288758473766002e-3],
    [6.24110958716075717114429577812e-1, 0.0, 0.0, -3.36089262944694129406857109825,
    -8.68219346841726006818189891453e-1, 2.75920996994467083049415600797e1,
    2.01540675504778934086186788979e1, -4.34898841810699588477366255144e1],
    [4.77662536438264365890433908527e-1, 0.0, 0.0, -2.48811461997166764192642586468,
    -5.90290826836842996371446475743e-1, 2.12300514481811942347288949897e1,
    1.52792336328824235832596922938e1, -3.32882109689848629194453265587e1,
    -2.03312017085086261358222928593e-2],
    [-9.3714243008598732571704021658e-1, 0.0, 0.0, 5.18637242884406370830023853209,
    1.09143734899672957818500254654, -8.14978701074692612513997267357,
    -1.85200656599969598641566180701e1, 2.27394870993505042818970056734e1,
    2.49360555267965238987089396762, -3.0467644718982195003823669022],
    [2.27331014751653820792359768449, 0.0, 0.0, -1.05344954667372501984066689879e1,
    -2.00087205822486249909675718444, -1.79589318631187989172765950534e1,
    2.79488845294199600508499808837e1, -2.85899827713502369474065508674,
    -8.87285693353062954433549289258, 1.23605671757943030647266201528e1,
    6.43392746015763530355970484046e-1]
  ]

/-- The weights of the stages in the step. -/
def stepWeights : List Float :=
  [5.42937341165687622380535766363e-2, 0.0, 0.0, 0.0, 0.0, 4.45031289275240888144113950566,
    1.89151789931450038304281599044, -5.8012039600105847814672114227,
    3.1116436695781989440891606237e-1, -1.52160949662516078556178806805e-1,
    2.01365400804030348374776537501e-1, 4.47106157277725905176885569043e-2]

/-- The weights of the stages in the error of third order. -/
def thirdOrderWeights : List Float :=
  [0.244094488188976377952755905512, 0.0, 0.0, 0.0, 0.0, 0.0, 0.0, 0.0,
    0.733846688281611857341361741547, 0.0, 0.0, 0.220588235294117647058823529412e-1]

/-- The weights of the stages in the error estimate of fifth order. -/
def fifthOrderError : List Float :=
  [0.1312004499419488073250102996e-1, 0.0, 0.0, 0.0, 0.0, -0.1225156446376204440720569753e1,
    -0.4957589496572501915214079952, 0.1664377182454986536961530415e1,
    -0.3503288487499736816886487290, 0.3341791187130174790297318841,
    0.8192320648511571246570742613e-1, -0.2235530786388629525884427845e-1]

/-- The weights of the stages in the error estimate of third order. -/
def thirdOrderError : List Float := List.zipWith (· - ·) stepWeights thirdOrderWeights

/-- The places of the stages that only serve the polynomial. -/
def extraPlaces : List Float := [0.1, 0.2, 0.777777777777777777777777777778]

def extraWeights : List (List Float) :=
  [
    [5.61675022830479523392909219681e-2, 0.0, 0.0, 0.0, 0.0, 0.0,
    2.53500210216624811088794765333e-1, -2.46239037470802489917441475441e-1,
    -1.24191423263816360469010140626e-1, 1.5329179827876569731206322685e-1,
    8.20105229563468988491666602057e-3, 7.56789766054569976138603589584e-3, -8.298e-3],
    [3.18346481635021405060768473261e-2, 0.0, 0.0, 0.0, 0.0, 2.83009096723667755288322961402e-2,
    5.35419883074385676223797384372e-2, -5.49237485713909884646569340306e-2, 0.0, 0.0,
    -1.08347328697249322858509316994e-4, 3.82571090835658412954920192323e-4,
    -3.40465008687404560802977114492e-4, 1.41312443674632500278074618366e-1],
    [-4.28896301583791923408573538692e-1, 0.0, 0.0, 0.0, 0.0, -4.69762141536116384314449447206,
    7.68342119606259904184240953878, 4.06898981839711007970213554331,
    3.56727187455281109270669543021e-1, 0.0, 0.0, 0.0, -1.39902416515901462129418009734e-3,
    2.9475147891527723389556272149, -9.15095847217987001081870187138]
  ]

/-- The weights of all stages in the coefficients of the polynomial from the fourth on. -/
def polynomialWeights : List (List Float) :=
  [
    [-0.84289382761090128651353491142e1, 0.0, 0.0, 0.0, 0.0, 0.56671495351937776962531783590,
    -0.30689499459498916912797304727e1, 0.23846676565120698287728149680e1,
    0.21170345824450282767155149946e1, -0.87139158377797299206789907490,
    0.22404374302607882758541771650e1, 0.63157877876946881815570249290,
    -0.88990336451333310820698117400e-1, 0.18148505520854727256656404962e2,
    -0.91946323924783554000451984436e1, -0.44360363875948939664310572000e1],
    [0.10427508642579134603413151009e2, 0.0, 0.0, 0.0, 0.0, 0.24228349177525818288430175319e3,
    0.16520045171727028198505394887e3, -0.37454675472269020279518312152e3,
    -0.22113666853125306036270938578e2, 0.77334326684722638389603898808e1,
    -0.30674084731089398182061213626e2, -0.93321305264302278729567221706e1,
    0.15697238121770843886131091075e2, -0.31139403219565177677282850411e2,
    -0.93529243588444783865713862664e1, 0.35816841486394083752465898540e2],
    [0.19985053242002433820987653617e2, 0.0, 0.0, 0.0, 0.0, -0.38703730874935176555105901742e3,
    -0.18917813819516756882830838328e3, 0.52780815920542364900561016686e3,
    -0.11573902539959630126141871134e2, 0.68812326946963000169666922661e1,
    -0.10006050966910838403183860980e1, 0.77771377980534432092869265740,
    -0.27782057523535084065932004339e1, -0.60196695231264120758267380846e2,
    0.84320405506677161018159903784e2, 0.11992291136182789328035130030e2],
    [-0.25693933462703749003312586129e2, 0.0, 0.0, 0.0, 0.0, -0.15418974869023643374053993627e3,
    -0.23152937917604549567536039109e3, 0.35763911791061412378285349910e3,
    0.93405324183624310003907691704e2, -0.37458323136451633156875139351e2,
    0.10409964950896230045147246184e3, 0.29840293426660503123344363579e2,
    -0.43533456590011143754432175058e2, 0.96324553959188282948394950600e2,
    -0.39177261675615439165231486172e2, -0.14972683625798562581422125276e3]
  ]

/-! ## One step -/

def relativeTolerance : Float := 1e-10

def absoluteTolerance : Float := 1e-12

/-- The weighted sum of stages. -/
def dot (ws ks : List Float) : Float := (List.zipWith (· * ·) ks ws).foldl (· + ·) 0.0

/-- More stages after those given, in order. -/
def stages (f : Float → Float → Float) (x y h : Float) (ks : List Float) :
    List (List Float) → List Float → List Float
  | ws :: rest, c :: cs =>
    stages f x y h (ks ++ [f (x + c * h) (y + dot ws ks * h)]) rest cs
  | _, _ => ks

/-- The larger of two numbers, undefined if one of them is. -/
def larger (a b : Float) : Float := if b.isNaN then b else if a < b then b else a

/-- A step that is tried: its width, its stages with the slope at its end, and where it leads. -/
structure Trial where
  h : Float
  stages : List Float
  x : Float
  y : Float
  slope : Float

def trial (f : Float → Float → Float) (x y slope h : Float) : Trial :=
  let ks := stages f x y h [slope] weights places
  let next := y + h * dot stepWeights ks
  let final := f (x + h) next
  ⟨h, ks ++ [final], x + h, next, final⟩

/-- The estimated error of a step in units of the tolerance. -/
def errorOf (y : Float) (t : Trial) : Float :=
  let scale := absoluteTolerance + larger y.abs t.y.abs * relativeTolerance
  let e5 := dot fifthOrderError t.stages / scale
  let e3 := dot thirdOrderError t.stages / scale
  let e5 := e5 * e5
  let e3 := e3 * e3
  if e5 == 0.0 && e3 == 0.0 then 0.0 else t.h.abs * e5 / (e5 + 0.01 * e3).sqrt

/-- What the error of a step suggests to multiply its width by. -/
def suggestion (error : Float) : Float := 0.9 * Float.pow error (-1.0 / 8.0)

/-- The gap between a double and the next larger one. -/
def gapAbove (x : Float) : Float :=
  if x == 0.0 then Float.ofBits 1
  else if 0.0 < x then Float.ofBits (x.toBits + 1) - x
  else Float.ofBits (x.toBits - 1) - x

/-- Where a solution has come to, and the width to try next. -/
structure Position where
  x : Float
  y : Float
  slope : Float
  width : Float

/-- Tries steps of falling width until one is within the tolerance; `none` when the width falls
below `least`. The trial comes with the width to try next. -/
def accept (f : Float → Float → Float) (p : Position) (xEnd least : Float) :
    Nat → Bool → Float → Option (Trial × Float)
  | 0, _, _ => none
  | fuel + 1, rejected, width =>
    if width < least then none
    else
      let x := if xEnd < p.x + width then xEnd else p.x + width
      let h := x - p.x
      let t := { trial f p.x p.y p.slope h with x := x }
      let e := errorOf p.y t
      if e < 1.0 then
        let s := if e == 0.0 || !(suggestion e < 10.0) then 10.0 else suggestion e
        let s := if rejected && !(s < 1.0) then 1.0 else s
        some (t, h.abs * s)
      else
        let s := if 0.2 < suggestion e then suggestion e else 0.2
        accept f p xEnd least fuel true (h.abs * s)

/-- The width of the first step to try. -/
def firstWidth (f : Float → Float → Float) (x y slope xEnd : Float) : Float :=
  let length := (xEnd - x).abs
  let scale := absoluteTolerance + y.abs * relativeTolerance
  let d0 := (y / scale).abs
  let d1 := (slope / scale).abs
  let h0 := if d0 < 1e-5 || d1 < 1e-5 then 1e-6 else 0.01 * d0 / d1
  let h0 := if length < h0 then length else h0
  let d2 := ((f (x + h0) (y + h0 * slope) - slope) / scale).abs / h0
  let steep := if d1 < d2 then d2 else d1
  let h1 :=
    if d1 ≤ 1e-15 && d2 ≤ 1e-15 then (if 1e-6 < h0 * 1e-3 then h0 * 1e-3 else 1e-6)
    else Float.pow (0.01 / steep) (1.0 / 8.0)
  let h := if h1 < 100.0 * h0 then h1 else 100.0 * h0
  if length < h then length else h

/-! ## Between the ends of a step -/

/-- The coefficients of the polynomial of a step from a position. -/
def polynomial (f : Float → Float → Float) (p : Position) (t : Trial) : List Float :=
  let ks := stages f p.x p.y t.h t.stages extraWeights extraPlaces
  let rise := t.y - p.y
  [rise, t.h * p.slope - rise, 2.0 * rise - t.h * (t.slope + p.slope)] ++
    polynomialWeights.map fun ws => t.h * dot ws ks

/-- The value of the polynomial at the part `s` of the step. -/
def interpolate (y : Float) (coefficients : List Float) (s : Float) : Float :=
  let step (acc : Float × Bool) (c : Float) : Float × Bool :=
    ((acc.1 + c) * (if acc.2 then s else 1.0 - s), !acc.2)
  y + (coefficients.reverse.foldl step (0.0, true)).1

/-! ## A whole run -/

/-- Steps from a position to `xEnd`, at most `fuel` of them. The wanted abscissae are answered as
they are passed; `done` holds the answers so far, the latest first. -/
def advance (f : Float → Float → Float) (xEnd : Float) :
    Nat → Position → List Float → List (Point Float) → Reference.Answer Float
  | 0, _, _, done => ⟨done.reverse, false⟩
  | fuel + 1, p, wanted, done =>
    let least := 10.0 * (gapAbove p.x).abs
    let width := if p.width < least then least else p.width
    match accept f p xEnd least 20000 false width with
    | none => ⟨done.reverse, false⟩
    | some (t, next) =>
      let (passed, rest) := wanted.span fun x => x ≤ t.x
      let cs := if passed.isEmpty then [] else polynomial f p t
      let done := passed.foldl (fun done x =>
        ⟨x, interpolate p.y cs ((x - p.x) / (t.x - p.x))⟩ :: done) done
      if xEnd ≤ t.x then ⟨done.reverse, true⟩
      else advance f xEnd fuel ⟨t.x, t.y, t.slope, next⟩ rest done

/-- The method, from a seed to the end of an interval. -/
def method : Reference.Method Float where
  follow f seed xEnd wanted :=
    let slope := f seed.x seed.y
    let width := firstWidth f seed.x seed.y slope xEnd
    advance f xEnd 1000000 ⟨seed.x, seed.y, slope, width⟩ wanted []

end DirectionField.EighthOrder
