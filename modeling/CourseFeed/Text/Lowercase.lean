import CourseFeed.Text.CodeMap
import CourseFeed.Text.Property

/-!
# Lower case

**`lowercase`** maps a text to lower case by the full rules: one capital, the dotted I, becomes two
characters, and a capital sigma becomes the final form at the end of a word. A sigma ends a word
when a cased letter stands before it and none after it, characters that case ignores aside.
-/

namespace CourseFeed.Text

/-- The characters whose lower case is another single character. -/
def simpleLower : CodeMap := CodeMap.ofRows
  ["1t 2i 1 2p, 5c 5y 1 68, 60 66 1 6w, 74 8e 2 75, 8i 8m 2 8j, 8p 93 2 8q, 96 ae 2 97, ag ag",
   "1 73, ah al 2 ai, ap ap 1 gj, aq as 2 ar, au au 1 gk, av av 1 aw, ax ay 1 gm, az az 1 b0,",
   "b2 b2 1 d9, b3 b3 1 gp, b4 b4 1 gr, b5 b5 1 b6, b7 b7 1 gw, b8 b8 1 gz, ba ba 1 h5, bb bb",
   "1 h4, bc bc 1 bd, bg bg 1 hb, bh bh 1 he, bj bj 1 hh, bk bo 2 bl, bq bq 1 hs, br br 1 bs,",
   "bt bt 1 hv, bw bw 1 bx, by by 1 i0, bz bz 1 c0, c1 c2 1 i2, c3 c5 2 c4, c7 c7 1 ia, c8 c8",
   "1 c9, cc cc 1 cd, ck ck 1 cm, cl cl 1 cm, cn cn 1 cp, co co 1 cp, cq cq 1 cs, cr d7 2 cs,",
   "da dq 2 db, dt dt 1 dv, du dw 2 dv, dy dy 1 b9, dz dz 1 cf, e0 f2 2 e1, f4 f4 1 bi, f6 fm",
   "2 f7, fu fu 1 8rp, fv fv 1 fw, fx fx 1 be, fy fy 1 8rq, g1 g1 1 g2, g3 g3 1 ao, g4 g4 1",
   "i1, g5 g5 1 i4, g6 ge 2 g7, og oi 2 oh, om om 1 on, ov ov 1 s3, p2 p2 1 q4, p4 p6 1 q5, p8",
   "p8 1 r0, pa pb 1 r1, pd pt 1 q9, pv q3 1 qr, r3 r3 1 rb, rc ry 2 rd, s4 s4 1 qg, s7 s7 1",
   "s8, s9 s9 1 s2, sa sa 1 sb, sd sf 1 or, sg sv 1 uo, sw tr 1 ts, v4 w0 2 v5, wa xq 2 wb, xs",
   "xs 1 y7, xt y5 2 xu, y8 10u 2 y9, 10x 11y 1 129, 3a8 3b9 1 8w0, 3bb 3bb 1 8x3, 3bh 3bh 1",
   "8x9, 3vk 3xr 1 xv4, 3xs 3xx 1 3y0, 5mx 5mx 1 5my, 5n4 5oa 1 3bk, 5od 5of 1 3ct, 5xc 61g 2",
   "5xd, 61q 61q 1 67, 61s 64e 2 61t, 64o 64v 1 64g, 654 659 1 64w, 65k 65r 1 65c, 660 667 1",
   "65s, 66g 66l 1 668, 66x 673 2 66p, 67c 67j 1 674, 688 68f 1 680, 68o 68v 1 68g, 694 69b 1",
   "68w, 69k 69l 1 69c, 69m 69n 1 67k, 69o 69o 1 69f, 6a0 6a3 1 67m, 6a4 6a4 1 69v, 6ag 6ah 1",
   "6a8, 6ai 6aj 1 67q, 6aw 6ax 1 6ao, 6ay 6az 1 67u, 6b0 6b0 1 6at, 6bc 6bd 1 67s, 6be 6bf 1",
   "67w, 6bg 6bg 1 6b7, 6jq 6jq 1 qx, 6ju 6ju 1 2z, 6jv 6jv 1 6d, 6k2 6k2 1 6ku, 6lc 6lr 1",
   "6ls, 6mb 6mb 1 6mc, 792 79r 1 79s, 8ow 8q7 1 8q8, 8rk 8rk 1 8rl, 8rm 8rm 1 h7, 8rn 8rn 1",
   "5tp, 8ro 8ro 1 hp, 8rr 8rv 2 8rs, 8rx 8rx 1 gh, 8ry 8ry 1 hd, 8rz 8rz 1 gg, 8s0 8s0 1 gi,",
   "8s2 8s2 1 8s3, 8s5 8s5 1 8s6, 8se 8sf 1 fz, 8sg 8v6 2 8sh, 8vf 8vh 2 8vg, 8vm 8vm 1 8vn,",
   "wu8 wvg 2 wu9, ww0 wwq 2 ww1, x0i x0u 2 x0j, x0y x2m 2 x0z, x2x x2z 2 x2y, x31 x31 1 5tl,",
   "x32 x3a 2 x33, x3f x3f 1 x3g, x3h x3h 1 h1, x3k x3m 2 x3l, x3q x48 2 x3r, x4a x4a 1 h2,",
   "x4b x4b 1 gs, x4c x4c 1 gx, x4d x4d 1 h8, x4e x4e 1 h6, x4g x4g 1 im, x4h x4h 1 hz, x4i",
   "x4i 1 il, x4j x4j 1 xub, x4k x4y 2 x4l, x50 x50 1 x3o, x51 x51 1 hu, x52 x52 1 5u6, x53",
   "x55 2 x54, x57 x57 1 h0, x58 x5m 2 x59, x5o x5o 1 bf, x6d x6d 1 x6e, 1ee9 1eey 1 1ef5,",
   "1fcw 1fdz 1 1fe0, 1fhs 1fir 1 1fiw, 1fn4 1fne 1 1fo7, 1fng 1fnu 1 1foj, 1fnw 1fo2 1 1foz,",
   "1fo4 1fo5 1 1fp7, 1h1c 1h2q 1 1h34, 1h74 1h7p 1 1h80, 1jfk 1jgf 1 1jgg, 20cg 20db 1 20dc,",
   "20f4 20fs 1 20fv, 2olc 2om9 1 2oma"]

/-- Whether the first character that case does not ignore has case. -/
def casedNext (text : List Char) : Bool :=
  match text.dropWhile Property.caseIgnorable.contains with
  | [] => false
  | c :: _ => Property.cased.contains c

/-- The lower case of a character between the text before it, last character first, and the
    text after it. -/
def lowercaseChar (before : List Char) (c : Char) (after : List Char) : List Char :=
  if c.toNat = 0x3A3 then
    if casedNext before && !casedNext after then ['\u03c2'] else ['\u03c3']
  else if c.toNat = 0x130 then ['i', '\u0307']
  else [simpleLower.apply c]

/-- The lower case of a text that follows `before`, which is given last character first. -/
def lowercaseFrom (before : List Char) : List Char → List Char
  | [] => []
  | c :: after => lowercaseChar before c after ++ lowercaseFrom (c :: before) after

/-- A text in lower case. -/
def lowercase (text : String) : String := String.ofList (lowercaseFrom [] text.toList)

end CourseFeed.Text
