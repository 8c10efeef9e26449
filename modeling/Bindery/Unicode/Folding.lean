import Bindery.Unicode.Ranges

/-!
# Bindery — Unicode — Folding

Simple case folding.  The code points that fold together form classes.  Most classes are pairs,
and most pairs stand in runs: first code points at a constant distance, and the same for their
partners.  The few larger classes are written out.
-/

namespace Bindery.Unicode.Folding

/-- Runs of pairs: the first code point, its partner, the number of pairs, the distance from one
pair to the next. -/
def pairRunsText : String :=
  "1t 2p a 1 24 30 8 2 25 31 3 2 2d 39 3 2 5c 68 g 2 5d 69 2 2 5j 6f 8 2 61 6x 3 2 67 61q 1 1
  73 ag 1 1 74 75 o 2 8i 8j 3 2 8p 8q 8 2 96 97 n 2 ah ai 3 2 ao g3 1 1 ap gj 1 1 aq ar 2 2
  au gk 1 1 av aw 1 1 ax gm 2 1 az b0 1 1 b2 d9 1 1 b3 gp 1 1 b4 gr 1 1 b5 b6 1 1 b7 gw 1 1
  b8 gz 1 1 b9 dy 1 1 ba h5 1 1 bb h4 1 1 bc bd 1 1 be fx 1 1 bg hb 1 1 bh he 1 1 bi f4 1 1
  bj hh 1 1 bk bl 3 2 bq hs 1 1 br bs 1 1 bt hv 1 1 bw bx 1 1 by i0 1 1 bz c0 1 1 c1 i2 2 1
  c3 c4 2 2 c7 ia 1 1 c8 c9 1 1 cc cd 1 1 cf dz 1 1 ct cu 8 2 da db 9 2 dw dx 1 1 e0 e1 k 2
  f6 f7 9 2 fu 8rp 1 1 fv fw 1 1 fy 8rq 1 1 fz 8se 2 1 g1 g2 1 1 g4 i1 1 1 g5 i4 1 1 g6 g7 5
  2 gg 8rz 1 1 gh 8rx 1 1 gi 8s0 1 1 gs x4b 1 1 gx x4c 1 1 h1 x3h 1 1 h2 x4a 1 1 h6 x4e 1 1
  h7 8rm 1 1 h8 x4d 1 1 hd 8ry 1 1 hp 8ro 1 1 hu x51 1 1 hz x4h 1 1 il x4i 1 1 im x4g 1 1 og
  oh 2 2 om on 1 1 or sd 3 1 ov s3 1 1 p2 q4 1 1 p4 q5 3 1 p8 r0 1 1 pa r1 2 1 pd q9 2 2 pg
  qc 2 2 pj qf 1 1 pn qj 3 2 pq qm 1 1 pw qs 2 1 pz qv 2 1 q2 qy 2 1 r3 rb 1 1 rc rd c 2 s2
  s9 1 1 s7 s8 1 1 sa sb 1 1 sg uo g 1 sw ts 2 1 sz tv 7 2 t2 ty 4 2 tc u8 1 1 tf ub 7 1 tn
  uj 5 1 v4 v5 1 1 v8 v9 f 2 wa wb r 2 xs y7 1 1 xt xu 7 2 y8 y9 1c 2 10x 129 12 1 3a8 8w0 12
  1 3bb 8x3 1 1 3bh 8x9 1 1 3bk 5n4 17 1 3ct 5od 3 1 3vk xv4 28 1 3xs 3y0 6 1 5tl x31 1 1 5tp
  8rn 1 1 5u6 x52 1 1 5xc 5xd 1c 2 602 603 q 2 61s 61t 1c 2 64g 64o 8 1 64w 654 6 1 65c 65k 8
  1 65s 660 8 1 668 66g 6 1 66p 66x 4 2 674 67c 8 1 67k 69m 2 1 67m 6a0 4 1 67q 6ai 2 1 67s
  6bc 2 1 67u 6ay 2 1 67w 6be 2 1 680 688 8 1 68g 68o 8 1 68w 694 8 1 69c 69k 2 1 69f 69o 1 1
  69v 6a4 1 1 6a8 6ag 2 1 6ao 6aw 2 1 6at 6b0 1 1 6b7 6bg 1 1 6k2 6ku 1 1 6lc 6ls g 1 6mb 6mc
  1 1 792 79s q 1 8ow 8q8 1c 1 8rk 8rl 1 1 8rr 8rs 3 2 8s2 8s3 1 1 8s5 8s6 1 1 8sg 8sh 1e 2
  8vf 8vg 2 2 8vm 8vn 1 1 wu8 wu9 5 2 wuk wul h 2 ww0 ww1 e 2 x0i x0j 7 2 x0y x0z v 2 x2x x2y
  2 2 x32 x33 5 2 x3f x3g 1 1 x3k x3l 2 2 x3o x50 1 1 x3q x3r a 2 x4j xub 1 1 x4k x4l 8 2 x53
  x54 2 2 x5c x5d 1 1 x5i x5j 2 2 x6d x6e 1 1 1ee9 1ef5 q 1 1fcw 1fe0 14 1 1fhs 1fiw 10 1
  1fn4 1fo7 j 2 1fn5 1fo8 5 2 1fnh 1fok 7 2 1fnx 1fp0 3 2 1fo5 1fp8 1 1 1h1c 1h34 1f 1 1jfk
  1jgg w 1 20cg 20dc w 1 2olc 2oma y 1"

/-- Classes of three or more code points: their number, then they themselves. -/
def largerText : String :=
  "3 23 2z 6ju 3 2b 37 an 3 5h 6d 6jv 3 ck cl cm 3 cn co cp 3 cq cr cs 3 dt du dv 3 pe qa r4 3
  ph qd s5 4 pk qg r5 s4 4 n9 pl qh 69q 3 pm qi s0 3 51 po qk 3 ps qo ra 3 pt qp s1 3 pv qq
  qr 3 py qu r9 3 q1 qx 6jq 3 sy tu 5mo 3 t0 tw 5mp 3 ta u6 5mq 3 td u9 5mr 4 te ua 5ms 5mt 3
  tm ui 5mu 3 v6 v7 5mv 3 600 601 61n 3 5mw wui wuj"

/-- The pairs of a run. -/
def pairsOf (a b step : Nat) : Nat → List (List Nat)
  | 0 => []
  | n + 1 => [a, b] :: pairsOf (a + step) (b + step) step n

/-- The pairs of all runs. -/
def readPairs : List Nat → List (List Nat)
  | a :: b :: n :: step :: rest => pairsOf a b step n ++ readPairs rest
  | _ => []

/-- Classes written one after the other; at most `k` of them. -/
def readLarger : Nat → List Nat → List (List Nat)
  | k + 1, n :: rest => rest.take n :: readLarger k (rest.drop n)
  | _, _ => []

/-- The classes of code points that fold together. -/
def classes : List (List Nat) :=
  readPairs ((words pairRunsText).map number) ++
    (let ns := (words largerText).map number
     readLarger ns.length ns)

/-- A set of code points together with all that fold together with one of them. -/
def close (a : Ranges) : Ranges :=
  let set := CodeSet.ofRanges a
  let added := (classes.filter fun c => c.any set.contains).flatten
  Ranges.ofList (a ++ added.map fun n => (n, n))

end Bindery.Unicode.Folding
