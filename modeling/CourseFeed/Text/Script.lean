import CourseFeed.Text.CharSet

/-!
# Scripts

A **`Script`** has the characters that belong to it alone and the larger set of all characters
used in it. **`Script.find?`** looks one up by its short or long name, in lower case and without
underlines. The tables are the run lengths that `CharSet.ofRuns` reads; an absent second table
means that both sets are the same.
-/

namespace CourseFeed.Text

/-- A script: its names, its own characters and the characters used in it. -/
structure Script where
  names : List String
  own : CharSet
  used : CharSet

namespace Script

/-- A script from its tables. -/
def ofRuns (names own : List String) (used : Option (List String)) : Script :=
  let set := CharSet.ofRuns own
  ⟨names, set, used.elim set CharSet.ofRuns⟩

/-- The scripts in alphabetic order of their long names. -/
def table : List Script :=
  [ofRuns ["adlm", "adlam"]
      ["2olc 24 4 a 4 2"]
      (some
      ["17j 1 w 1 55a 1 2r5 1 2fge 24 4 a 4 2"]),
    ofRuns ["ahom"]
      ["1j40 r 2 f 4 n"]
      none,
    ofRuns ["hluw", "anatolianhieroglyphs"]
      ["1s00 g7"]
      none,
    ofRuns ["arab", "arabic"]
      ["16o 5 1 6 1 e 1 3 1 w 1 a b q 1 30 1 y 28 1c 6o y 5 23 1 t 1bv4 dq 2 40 w g 34 5 1 3r",
       "31f v 1v 6 8 9 x 6 181s 4 1 r 1 2 1 1 2 1 1 a 1 4 1 1 1 1 6 1 4 1 1 1 1 1 1 3 1 2 1 1",
       "2 1 1 1 1 1 1 1 1 1 1 2 1 1 2 4 1 7 1 4 1 4 1 1 1 a 1 h 5 3 1 5 1 h 1g 2"]
      (some
      ["16o 5 1 5z 1 y 28 1c 6o y 5 23 1 t 4lr 1 2r5 1 14i6 hs w g 34 5 1 3r rn s 290 v 1v 6 8",
       "9 x 6 181s 4 1 r 1 2 1 1 2 1 1 a 1 4 1 1 1 1 6 1 4 1 1 1 1 1 1 3 1 2 1 1 2 1 1 1 1 1 1",
       "1 1 1 1 2 1 1 2 4 1 7 1 4 1 4 1 1 1 a 1 h 5 3 1 5 1 h 1g 2"]),
    ofRuns ["armn", "armenian"]
      ["10x 12 2 1e 2 3 1chv 5"]
      (some
      ["lk 1 fc 12 2 1e 2 3 1chv 5"]),
    ofRuns ["avst", "avestan"]
      ["1gqo 1i 3 7"]
      (some
      ["53 1 8zc 2 17m6 1i 3 7"]),
    ofRuns ["bali", "balinese"]
      ["5c0 25 1 1e"]
      none,
    ofRuns ["bamu", "bamum"]
      ["www 2g 124o ft"]
      none,
    ofRuns ["bass", "bassavah"]
      ["1zo0 u 2 6"]
      none,
    ofRuns ["batk", "batak"]
      ["5hc 1g 8 4"]
      none,
    ofRuns ["beng", "bengali"]
      ["1vk 4 1 8 2 2 2 m 1 7 1 1 3 4 2 9 2 2 2 4 8 1 4 2 1 5 2 p"]
      (some
      ["jg 1 1as 2 h 2 q 4 1 8 2 2 2 m 1 7 1 1 3 4 2 9 2 2 2 4 8 1 4 2 1 5 2 p 3pt 1 1 1 2 2 1",
       "1 8 1 8 1 2 1 4 1 2 3 rnd 1"]),
    ofRuns ["berf", "beriaerfe"]
      ["20f4 p 2 p"]
      none,
    ofRuns ["bhks", "bhaiksuki"]
      ["1k3k 9 1 19 1 e a t"]
      none,
    ofRuns ["bopo", "bopomofo"]
      ["kq 2 93t 17 34 w"]
      (some
      ["jr 1 1 3 d 1 g 2 8wl 3 4 a 1 d a 4 2 1 6 1 5f 1 9 17 34 w 14ed 2 7u 5"]),
    ofRuns ["brah", "brahmi"]
      ["1hq8 26 4 10 9 1"]
      none,
    ofRuns ["brai", "braille"]
      ["7wg 74"]
      none,
    ofRuns ["bugi", "buginese"]
      ["54w s 2 2"]
      (some
      ["54w s 2 2 sdr 1"]),
    ofRuns ["buhd", "buhid"]
      ["4lc k"]
      (some
      ["4l1 2 9 k"]),
    ofRuns ["cans", "canadianaboriginal"]
      ["3y8 hs fk 1y 1ewq g"]
      none,
    ofRuns ["cari", "carian"]
      ["1f34 1d"]
      (some
      ["53 1 68y 1 2 1 2qb 1 15ym 1d"]),
    ofRuns ["aghb", "caucasianalbanian"]
      ["1flc 1g b 1"]
      (some
      ["lg 1 18 1 18 1 1exd 1g b 1"]),
    ofRuns ["cakm", "chakma"]
      ["1hxc 1h 1 i"]
      (some
      ["1ye a 18w a 1epi 1h 1 i"]),
    ofRuns ["cham"]
      ["xkw 1j 9 e 2 a 2 4"]
      none,
    ofRuns ["cher", "cherokee"]
      ["3vk 2e 2 6 twy 28"]
      (some
      ["lc 3 1 1 6 2 m 2 b 2 38u 2e 2 6 twy 28"]),
    ofRuns ["chrs", "chorasmian"]
      ["1ho0 s"]
      none,
    ofRuns ["zyyy", "common"]
      ["0 1t q 6 q 1b 1 f 1 5 n 1 v 1 ch 13 5 5 2 k 38 1 9 1 6 1 1 1 hp 1 6 1 e 1 3 1 w 1 4c 1",
       "ec 1 3l 2 yh 1 b9 4 82 1 167 3 1z 2 5n 2 1 1 y5 1 d 1 7 4 1 6 1 3 2 1 lh c 2 2f 1 b 3",
       "b 1 f h y 1q 12 1 3 2 6 1 r 1 h 15 3 4 ii m b l ps 74 hg 2 3u e8 2m b6 l 1 1 1 p f 8 4",
       "4 2j 2 3 1 2i 2 43 g w 12 9 1 1c 1s v 29 1b 1 2g 4o 534 1s hkw y 2u 3 4l a 6s 1 4g 1",
       "az 1 e 2 g5u 2 5s a m z 1 j 1 4 43 1 1 w q 6 q b a 1 19 2 1s 7 1 7 a 5 76 3 4 19 3 9",
       "28 d 1f 19 6c r 10o4 4 318 71 3 c4 6 n f h 2n 38 1o 6u a 13 2 1q 3 h 8 2 7 u 4 1p 5x k",
       "c k c 2f 9 p 3r 2d 1 1z 1 2 2 1 2 2 2 4 1 c 1 1 1 7 1 1t 1 4 2 8 1 7 1 s 1 4 1 5 1 1 3",
       "7 1 9g 2 84 2 1e 41d 1w 24 1p jm 18 4 2s c f 2 f 1 f 1 11 a 4u 1k q 1 2 d 18 4 9 7 2 e",
       "6 4a rd 3 h 3 d 3 62 6 c 4 1 f c 4 1k 8 a 6 14 8 u 2 c 4 2 e 9 13 9k 8 e 2 d 3 b 3 1l",
       "1 1 4 g 2 c 4 a 7 43 1 2v gvly 1 u 2o"]
      (some
      ["0 1t q 6 q 1b 1 c 1 2 1 5 n 1 v 1 ch 3 1 a 1 1 3 1 1 9 1 1 1 6 5 5 2 k 3i 1 6 1 1 1 hp",
       "1 5z 1 ec 1 124 1 b9 4 36v c 2 x 1 v 1 a 1 2 1 7 1 b 3 b 1 f h y 1q 12 1 3 2 6 1 r 1 h",
       "15 3 4 ii m b l ps 74 hg 2 3u e8 n 1 o 2 a 1 4 1 1 1 q bm 1 3 1 d 1 d 1 l 1 ep o v 1",
       "1d f c 4 4h a 5 2o v 1 534 1s hl4 q 2u 3 r4 1 e 2 gbo a m l 2 c 1 j 1 4 43 1 1 w q 6 q",
       "6 3j 7 1 7 a 5 b6 d 1f 19 13wj 71 3 c4 6 n f h 2n 38 1o 6u a 13 2 1q 3 h 8 2 7 u 4 1p",
       "5x k c k c 2f r 7 3r 2d 1 1z 1 2 2 1 2 2 2 4 1 c 1 1 1 7 1 1t 1 4 2 8 1 7 1 s 1 4 1 5",
       "1 1 3 7 1 9g 2 84 2 1e 41d 1w 24 1p jm 18 4 2s c f 2 f 1 f 1 11 a 4u 1k q 1 2 d 18 4 9",
       "n 6 4a rd 3 h 3 d 3 62 6 c 4 1 f c 4 1k 8 a 6 14 8 u 2 c 4 2 e 9 13 9k 8 e 2 d 3 b 3",
       "1l 1 1 4 g 2 c 4 a 7 43 1 2v gvly 1 u 2o"]),
    ofRuns ["copt", "coptic", "qaac"]
      ["rm e 80g 38 5 7"]
      (some
      ["53 1 g8 1 3 2 1 1 30 2 30 e 80g 38 5 7 7r 1 1614 s"]),
    ofRuns ["xsux", "cuneiform"]
      ["1kw0 pm 2u 33 1 5 b 5g"]
      none,
    ofRuns ["cprt", "cypriot"]
      ["1g5c 6 2 1 1 18 1 2 3 1 2 1"]
      (some
      ["1erk 3 4 19 3 9 1c0 6 2 1 1 18 1 2 3 1 2 1"]),
    ofRuns ["cpmn", "cyprominoan"]
      ["1nyo 2r"]
      (some
      ["1erk 2 972 2r"]),
    ofRuns ["cyrl", "cyrillic"]
      ["sg 3p 2 4p 4ls b 4g 1 24 1 38n w nr4 2o ham 2 18n4 1q x 1"]
      (some
      ["jg 1 1v 3 1 1 1 1 1 1 2 1 5 1 6m 8g 4ls b 4g 1 24 1 3j 1 353 w 1v 1 np8 2o ham 2 18n4",
       "1q x 1"]),
    ofRuns ["dsrt", "deseret"]
      ["1fcw 28"]
      none,
    ofRuns ["deva", "devanagari"]
      ["1s0 29 4 f 2 q vhc w mio a"]
      (some
      ["jg 1 18j 2b 2 17 3tc 13 1 2 s6 1 qpr a 4m w mio a"]),
    ofRuns ["diak", "divesakuru"]
      ["1ji8 7 2 1 2 8 1 2 1 u 1 2 2 c 9 a"]
      none,
    ofRuns ["dogr", "dogra"]
      ["1jb4 1o"]
      (some
      ["1us c vcw a m2u 1o"]),
    ofRuns ["dupl", "duployan"]
      ["2fpc 2z 5 d 3 9 7 a 2 4"]
      (some
      ["53 1 gf 2 1 1 o 2 8if 1 26kj 2z 5 d 3 9 7 a 2 8"]),
    ofRuns ["egyp", "egyptianhieroglyphs"]
      ["1o1s uu a 32z"]
      none,
    ofRuns ["elba", "elbasan"]
      ["1fk0 14"]
      (some
      ["53 1 gd 1 1eyi 14"]),
    ofRuns ["elym", "elymaic"]
      ["1hpc n"]
      none,
    ofRuns ["ethi", "ethiopic"]
      ["3k0 21 1 4 2 7 1 1 1 4 2 15 1 4 2 x 1 4 2 7 1 1 1 4 2 f 1 1l 1 4 2 1v 2 w 3 q 546 n 9",
       "7 1 7 1 7 1 7 1 7 1 7 1 7 1 7 opu 6 2 6 2 6 9 7 1 7 1qk1 7 1 4 1 2 1 f"]
      (some
      ["lq 1 2y9 21 1 4 2 7 1 1 1 4 2 15 1 4 2 x 1 4 2 7 1 1 1 4 2 f 1 1l 1 4 2 1v 2 w 3 q 546",
       "n 9 7 1 7 1 7 1 7 1 7 1 7 1 7 1 7 opu 6 2 6 2 6 9 7 1 7 1qk1 7 1 4 1 2 1 f"]),
    ofRuns ["gara", "garay"]
      ["1h6o 12 3 t 8 2"]
      (some
      ["170 1 e 1 3 1 1fz4 12 3 t 8 2"]),
    ofRuns ["geor", "georgian"]
      ["3a8 12 1 1 5 1 2 17 1 4 2a8 17 2 3 37k 12 1 1 5 1"]
      (some
      ["53 1 y9 1 26u 12 1 1 5 1 2 1c 2a8 17 2 3 pm 1 2hx 12 1 1 5 1 77 1"]),
    ofRuns ["glag", "glagolitic"]
      ["8ow 2o 2e1s 7 1 h 2 7 1 2 1 5"]
      (some
      ["53 1 gb 1 1 1 am 1 2 1 75 1 29d 1 31a 1 2at 2o df 1 nqj 1 1pxs 7 1 h 2 7 1 2 1 5"]),
    ofRuns ["goth", "gothic"]
      ["1f74 r"]
      (some
      ["53 1 gc 2 2 1 14 1 1eke r"]),
    ofRuns ["gran", "grantha"]
      ["1ibk 4 1 8 2 2 2 m 1 7 1 2 1 5 2 9 2 2 2 3 2 1 6 1 5 7 2 7 3 5"]
      (some
      ["1u9 2 h 2 hs e 3bw 1 1 2 u 3 3 2 s6 1 1btb 4 1 8 2 2 2 m 1 7 1 2 1 5 1 a 2 2 2 3 2 1 6",
       "1 5 7 2 7 3 5 2fv 2 1 1"]),
    ofRuns ["grek", "greek"]
      ["og 4 1 3 2 4 1 1 4 1 1 1 1 3 1 1 1 k 1 1r e g 4yu 5 1e 5 4 5 2c 1 8w m 2 6 2 12 2 6 2",
       "8 1 1 1 1 1 1 1 v 2 1h 1 f 1 e 2 6 1 j 2 3 1 9 87 1 rb2 1 gyi 27 h 1 155r 1y"]
      (some
      ["53 1 g8 2 2 1 1 1 1 1 a 1 1a 1 2 1 16 8 2 4 1 1 4 1 1 1 1 3 1 1 1 k 1 1r e g 4yu 5 1e",
       "5 4 5 2c 3 8u m 2 6 2 12 2 6 2 8 1 1 1 1 1 1 1 v 2 1h 1 f 1 e 2 6 1 j 2 3 1 9 2m 1 5k",
       "1 rb2 1 gyi 27 h 1 155r 1y"]),
    ofRuns ["gujr", "gujarati"]
      ["22p 3 1 9 1 3 1 m 1 7 1 2 1 5 2 a 1 3 1 3 2 1 f 4 2 c 7 7"]
      (some
      ["1u9 2 h 2 7v 3 1 9 1 3 1 m 1 7 1 2 1 5 2 a 1 3 1 3 2 1 f 4 2 c 7 7 v1s a"]),
    ofRuns ["gong", "gunjalagondi"]
      ["1kdc 6 1 2 1 11 1 2 1 6 7 a"]
      (some
      ["53 1 1po 2 1iii 6 1 2 1 11 1 2 1 6 7 a"]),
    ofRuns ["guru", "gurmukhi"]
      ["1z5 3 1 6 4 2 2 m 1 7 1 2 1 2 1 2 2 1 1 5 4 2 2 3 3 1 7 4 1 1 7 h"]
      (some
      ["1u9 2 h 2 4b 3 1 6 4 2 2 m 1 7 1 2 1 2 1 2 2 1 1 5 4 2 2 3 3 1 7 4 1 1 7 h v5l a"]),
    ofRuns ["gukh", "gurungkhema"]
      ["1xq8 1m"]
      (some
      ["1ut 1 1vve 1m"]),
    ofRuns ["hani", "han"]
      ["96o q 1 2h c 5y 1b 1 1 1 p 9 e 4 qs 534 1s g74 hkw a6 2 2y n48 2 c 7 sg9 wyo w 3dq 2",
       "4ge 2 5rl f ha 1wi f2 15u 3t7 5 6ju"]
      (some
      ["53 1 91k q 1 2h c 5y q g 1 3 1 d 1 d 1 d 2 1 6 9 57 1 44 g w 12 9 1 1c 14 1k 1d f c 1f",
       "1 2g p a 5 2o v 1 534 1s g74 1ds 8 g6w a6 2 2y ob 2 7u 5 m7w 2 c 7 jmx i 63i 2 2pa wyo",
       "w 3dq 2 4ge 2 5rl f ha 1wi f2 15u 3t7 5 6ju"]),
    ofRuns ["hang", "hangul"]
      ["3cw 74 5ym 2 75 2m 35 v 1t v nhd t hv 8mc c n 4 1d 7tw v 3 6 2 6 2 6 2 3"]
      (some
      ["3cw 74 5xd 3 4 a 1 d e 3 6 1 5f 1 1h 2m 35 v 1t v nhd t hv 8mc c n 4 1d 7k9 2 7u 5 1m",
       "v 3 6 2 6 2 6 2 3"]),
    ofRuns ["rohg", "hanifirohingya"]
      ["1h4w 14 8 a"]
      (some
      ["170 1 e 1 3 1 w 1 43 1 1fsb 14 8 a"]),
    ofRuns ["hano", "hanunoo"]
      ["4kg l"]
      (some
      ["4kg n"]),
    ofRuns ["hatr", "hatran"]
      ["1gbk j 1 2 5 5"]
      none,
    ofRuns ["hebr", "hebrew"]
      ["13l 1j 8 r 4 6 1cfc q 1 5 1 1 1 2 1 2 1 a"]
      (some
      ["lj 2 i0 1j 8 r 4 6 1cfc q 1 5 1 1 1 2 1 2 1 a"]),
    ofRuns ["hira", "hiragana"]
      ["9j5 2e 6 3 23q9 7z i 1 t 3 crx 1"]
      (some
      ["9hd 3 4 a 1 d g 6 1 1 4 2 3 2e 2 8 2i 2 14js 2 7u 5 a 1 19 2 yu9 7z i 1 t 3 crx 1"]),
    ofRuns ["armi", "imperialaramaic"]
      ["1g74 m 1 9"]
      none,
    ofRuns ["zinh", "inherited", "qaai"]
      ["lc 34 7p 2 ck b q 1 kg 4 3ff 1a 2 c dg 3 1 d 1 7 4 1 6 1 3 2 5i 1s ek 2 5e x 309 4 2z",
       "2 14kl g g e r3 1 6a 1 38a 1 1138 1a 2 n f4 3 h 8 2 7 u 4 h45u 6o"]
      (some
      ["lr 1 2 1 1 f 3 7 2 1 2 g 1 2 1 i 1 5 1 4 168 2 3ff 1a 2 c k6 1i 1 1 1 5 ek 2 5e w 17o0",
       "g g e r3 1 14hu 1a 2 n f4 3 h 8 2 7 u 4 h45u 6o"]),
    ofRuns ["phli", "inscriptionalpahlavi"]
      ["1gtc j 5 8"]
      none,
    ofRuns ["prti", "inscriptionalparthian"]
      ["1gsg m 2 8"]
      none,
    ofRuns ["java", "javanese"]
      ["xhc 26 2 a 4 2"]
      (some
      ["xhc 26 1 b 4 2"]),
    ofRuns ["kthi", "kaithi"]
      ["1hts 1v a 1"]
      (some
      ["1uu a 79d 1 o3i a kli 1v a 1"]),
    ofRuns ["knda", "kannada"]
      ["2gw d 1 3 1 n 1 a 1 5 2 9 1 3 1 4 7 2 5 3 1 4 2 a 1 3"]
      (some
      ["1u9 2 h 2 m2 d 1 3 1 n 1 a 1 5 2 9 1 3 1 4 7 2 5 3 1 4 2 a 1 3 34s 1 1 2 6 1 n 1 1 1",
       "ri3 6"]),
    ofRuns ["kana", "katakana"]
      ["9lt 2i 2 3 6o g 5s 1b 1 2g 14b2 a 1 19 ytu 4 1 7 1 2 1 1 7z 3 1e 1 e 4"]
      (some
      ["lh 1 t 1 8v1 3 4 a 1 d g 6 1 1 4 2 2j 4 3 2o 6o g 5s 1b 1 2g 1431 2 7u 1r yts 4 1 7 1",
       "2 1 1 7z 3 1e 1 e 4"]),
    ofRuns ["kawi"]
      ["1kow h 1 15 3 t"]
      none,
    ofRuns ["kali", "kayahli"]
      ["xds 1a 1 1"]
      (some
      ["xds 1c"]),
    ofRuns ["khar", "kharoshthi"]
      ["1gjk 4 1 2 5 8 1 3 1 t 2 3 4 a 7 9"]
      none,
    ofRuns ["kits", "khitansmallscript"]
      ["20o4 1 5cr d2 15 1"]
      none,
    ofRuns ["khmr", "khmer"]
      ["4n4 2m 2 a 6 a di w"]
      none,
    ofRuns ["khoj", "khojki"]
      ["1i4g i 1 1b"]
      (some
      ["25i a v28 a kw6 i 1 1b"]),
    ofRuns ["sind", "khudawadi"]
      ["1i9c 1n 5 a"]
      (some
      ["1us 2 vd6 a l12 1n 5 a"]),
    ofRuns ["krai", "kiratrai"]
      ["205c 1m"]
      none,
    ofRuns ["laoo", "lao"]
      ["2v5 2 1 1 1 5 1 o 1 1 1 n 2 5 1 1 1 7 1 a 2 4"]
      none,
    ofRuns ["latn", "latin"]
      ["1t q 6 q 1b 1 f 1 5 n 1 v 1 ch 13 5 55n 12 6 1d 5 4 5 d 1 1y 1t 74 a9 1 d 1 g d 3x 2 6",
       "1 r 1 h 15 253 w o82 2u 3 2a k f mo 17 1 9 1 4 fpy 7 t6 q 6 q 1lx 6 1 16 1 9 16it v 6",
       "6"]
      (some
      ["1t q 6 q 1b 1 c 1 2 1 5 n 1 v 1 ch 3 1 a 1 1 3 1 1 9 1 1 1 6 5 r f 1 2 1 1 f 3 7 2 1 2",
       "12 1 5 1 4 d 7p 2 y2 2 1ig 1 2dg 12 6 1d 5 4 5 d 1 1y 1l 1 7 74 8f 1 1t 1 d 1 g d 2b 1",
       "1l 2 6 1 r 1 h 15 253 w bb 1 nvs 8 q 2u 3 2a k f 8e 1 e9 17 1 9 1 4 fpy 7 t6 q 6 q 1lx",
       "6 1 16 1 9 16it v 6 6"]),
    ofRuns ["lepc", "lepcha"]
      ["5j4 1k 3 f 3 3"]
      none,
    ofRuns ["limb", "limbu"]
      ["4xs v 1 c 4 c 4 1 3 c"]
      (some
      ["1ut 1 32y v 1 c 4 c 4 1 3 c"]),
    ofRuns ["lina", "lineara"]
      ["1fr4 8n 9 m a 8"]
      (some
      ["1err 19 y4 8n 9 m a 8"]),
    ofRuns ["linb", "linearb"]
      ["1ekg c 1 q 1 j 1 2 1 f 2 e y 3f"]
      (some
      ["1ekg c 1 q 1 j 1 2 1 f 2 e y 3f 5 3 4 19 3 9"]),
    ofRuns ["lisu"]
      ["wk0 1c o8g 1"]
      (some
      ["jg 1 g 1 8xo 2 n2c 1c o8g 1"]),
    ofRuns ["lyci", "lycian"]
      ["1f28 t"]
      (some
      ["6e2 1 18o5 t"]),
    ofRuns ["lydi", "lydian"]
      ["1gdc q 5 1"]
      (some
      ["53 1 8zd 1 178u q 5 1"]),
    ofRuns ["mahj", "mahajani"]
      ["1hzk 13"]
      (some
      ["53 1 1po c vcw a kra 13"]),
    ofRuns ["maka", "makasar"]
      ["1ko0 p"]
      none,
    ofRuns ["mlym", "malayalam"]
      ["2kg d 1 3 1 1f 1 3 1 6 4 g 2 q"]
      (some
      ["1u9 2 h 2 pm d 1 3 1 1f 1 3 1 6 4 g 2 q 316 1 n 1 ri5 3"]),
    ofRuns ["mand", "mandaic"]
      ["1mo s 2 1"]
      (some
      ["18g 1 e7 s 2 1"]),
    ofRuns ["mani", "manichaean"]
      ["1gow 13 4 c"]
      (some
      ["18g 1 1fgf 13 4 c"]),
    ofRuns ["marc", "marchen"]
      ["1k6o w 2 m 1 e"]
      none,
    ofRuns ["gonm", "masaramgondi"]
      ["1kao 7 1 2 1 18 3 1 1 2 1 9 8 a"]
      (some
      ["1us 2 1ifu 7 1 2 1 18 3 1 1 2 1 9 8 a"]),
    ofRuns ["medf", "medefaidrin"]
      ["20cg 2j"]
      none,
    ofRuns ["mtei", "meeteimayek"]
      ["xr4 n 5l 1a 2 a"]
      none,
    ofRuns ["mend", "mendekikakui"]
      ["2oe8 5h 2 g"]
      none,
    ofRuns ["merc", "meroiticcursive"]
      ["1ggw o 4 k 2 1a"]
      none,
    ofRuns ["mero", "meroitichieroglyphs"]
      ["1gg0 w"]
      (some
      ["6e5 1 1a1u w"]),
    ofRuns ["plrd", "miao"]
      ["20hs 23 4 1l 7 h"]
      none,
    ofRuns ["modi"]
      ["1iww 1x b a"]
      (some
      ["x80 a lom 1x b a"]),
    ofRuns ["mong", "mongolian"]
      ["4qo 2 2 1 1 k 6 2h 7 17 1e45 d"]
      (some
      ["4qo q 6 2h 7 17 1hg 1 34h 2 5 4 19hw d"]),
    ofRuns ["mroo", "mro"]
      ["1zk0 v 1 a 4 2"]
      none,
    ofRuns ["mult", "multani"]
      ["1i80 7 1 1 1 4 1 f 1 b"]
      (some
      ["21y a 1g5s 7 1 1 1 4 1 f 1 b"]),
    ofRuns ["mymr", "myanmar"]
      ["35s 4g u9s v 2p w le8 k"]
      (some
      ["35s 4g u4u 1 4x v 2p w le8 k"]),
    ofRuns ["nbat", "nabataean"]
      ["1g8w v 8 9"]
      none,
    ofRuns ["nagm", "nagmundari"]
      ["2nrk 16"]
      none,
    ofRuns ["nand", "nandinagari"]
      ["1jmo 8 2 1a 2 b"]
      (some
      ["1u9 1 i 2 ow a 35l 1 8 1 7 1 rhx 6 mei 8 2 1a 2 b"]),
    ofRuns ["talu", "newtailue"]
      ["51c 18 4 q 6 b 3 2"]
      none,
    ofRuns ["newa"]
      ["1iio 2k 1 5"]
      (some
      ["1u9 2 3uq 1 1 2 9 1 6 1 1 1 1 1 1csy 2k 1 5"]),
    ofRuns ["nkoo", "nko"]
      ["1j4 1n 2 3"]
      (some
      ["170 1 e 1 3 1 bk 1n 2 3 1cfy 2"]),
    ofRuns ["nshu", "nushu"]
      ["20o1 1 cy6 b0"]
      none,
    ofRuns ["hmnp", "nyiakengpuachuehmong"]
      ["2n0g 19 3 e 2 a 4 2"]
      none,
    ofRuns ["ogam", "ogham"]
      ["4g0 t"]
      none,
    ofRuns ["olck", "olchiki"]
      ["5lc 1c"]
      none,
    ofRuns ["onao", "olonal"]
      ["2nyo 17 4 1"]
      (some
      ["1us 2 2m3u 17 4 1"]),
    ofRuns ["hung", "oldhungarian"]
      ["1h1c 1f d 1f 7 6"]
      (some
      ["6e2 1 2 1 2qb 1 f 1 17we 1f d 1f 7 6"]),
    ofRuns ["ital", "olditalic"]
      ["1f5s 10 9 3"]
      none,
    ofRuns ["narb", "oldnortharabian"]
      ["1gn4 w"]
      none,
    ofRuns ["perm", "oldpermic"]
      ["1f80 17"]
      (some
      ["53 1 g8 1 5 3 a 1 a7 1 1ebw 17"]),
    ofRuns ["xpeo", "oldpersian"]
      ["1fa8 10 4 e"]
      none,
    ofRuns ["sogo", "oldsogdian"]
      ["1hj4 14"]
      none,
    ofRuns ["sarb", "oldsoutharabian"]
      ["1gm8 w"]
      none,
    ofRuns ["orkh", "oldturkic"]
      ["1gxs 21"]
      (some
      ["6e2 1 2qd 1 17tb 21"]),
    ofRuns ["ougr", "olduyghur"]
      ["1hm8 q"]
      (some
      ["18g 1 1fht 1 vx q"]),
    ofRuns ["orya", "oriya"]
      ["269 3 1 8 2 2 2 m 1 7 1 2 1 5 2 9 2 2 2 3 7 3 4 2 1 5 2 i"]
      (some
      ["1u9 2 h 2 bf 3 1 8 2 2 2 m 1 7 1 2 1 5 2 9 2 2 2 3 7 3 4 2 1 5 2 i 3fm 1 n 1"]),
    ofRuns ["osge", "osage"]
      ["1fhs 10 4 10"]
      (some
      ["ld 1 2 1 6 1 24 1 1etz 10 4 10"]),
    ofRuns ["osma", "osmanya"]
      ["1fgg u 2 a"]
      none,
    ofRuns ["hmng", "pahawhhmong"]
      ["1zpc 1y a a 1 7 1 l 5 j"]
      none,
    ofRuns ["palm", "palmyrene"]
      ["1g80 w"]
      none,
    ofRuns ["pauc", "paucinhau"]
      ["1juo 1l"]
      none,
    ofRuns ["phag", "phagspa"]
      ["x8g 1k"]
      (some
      ["4qq 2 1 1 1m1 1 34i 1 nr1 1k"]),
    ofRuns ["phnx", "phoenician"]
      ["1gcg s 3 1"]
      none,
    ofRuns ["phlp", "psalterpahlavi"]
      ["1gu8 i 7 4 c 7"]
      (some
      ["18g 1 1flr i 7 4 c 7"]),
    ofRuns ["rjng", "rejang"]
      ["xf4 10 b 1"]
      none,
    ofRuns ["runr", "runic"]
      ["4gw 23 3 b"]
      (some
      ["4gw 2h"]),
    ofRuns ["samr", "samaritan"]
      ["1kw 1a 2 f"]
      (some
      ["1kw 1a 2 f 7hu 1"]),
    ofRuns ["saur", "saurashtra"]
      ["xa8 1y 8 c"]
      none,
    ofRuns ["shrd", "sharada"]
      ["1i0w 2o 1vk 8"]
      (some
      ["1u9 1 3ut 1 1 1 2 2 2 1 9 1 2 1 ria 6 2 1 ksn 2o 1vk 8"]),
    ofRuns ["shaw", "shavian"]
      ["1ff4 1c"]
      (some
      ["53 1 1fa0 1c"]),
    ofRuns ["sidd", "siddham"]
      ["1itc 1i 2 12"]
      none,
    ofRuns ["sidt", "sidetic"]
      ["1ge8 q"]
      none,
    ofRuns ["sgnw", "signwriting"]
      ["2l8g i4 f 5 1 f"]
      none,
    ofRuns ["sinh", "sinhala"]
      ["2o1 3 1 i 3 o 1 9 1 1 2 7 3 1 4 6 1 1 1 8 6 a 2 3 1fcc k"]
      (some
      ["1us 2 t7 3 1 i 3 o 1 9 1 1 2 7 3 1 4 6 1 1 1 8 6 a 2 3 2yl 1 1cdq k"]),
    ofRuns ["sogd", "sogdian"]
      ["1hkg 16"]
      (some
      ["18g 1 1gbz 16"]),
    ofRuns ["sora", "sorasompeng"]
      ["1hw0 p 7 a"]
      none,
    ofRuns ["soyo", "soyombo"]
      ["1jrk 2b"]
      none,
    ofRuns ["sund", "sundanese"]
      ["5fk 1s 74 8"]
      none,
    ofRuns ["sunu", "sunuwar"]
      ["1k1s y e a"]
      (some
      ["lc 2 1 1 9 1 2 1 s 1 3 1 1jf2 y e a"]),
    ofRuns ["sylo", "sylotinagri"]
      ["x6o 19"]
      (some
      ["1us 2 3k a v80 19"]),
    ofRuns ["syrc", "syriac"]
      ["1ds e 1 1o 2 3 7k b"]
      (some
      ["lf 2 2 2 1 1 o 3 7 2 1 2 ka 1 e 2 2 1 w 1 a b q 1 3z e 1 1o 2 3 7k b 499 1 1 1"]),
    ofRuns ["tglg", "tagalog"]
      ["4jk m 9 1"]
      (some
      ["4jk m 9 1 l 2"]),
    ofRuns ["tagb", "tagbanwa"]
      ["4m8 d 1 3 1 2"]
      (some
      ["4l1 2 15 d 1 3 1 2"]),
    ofRuns ["tale", "taile"]
      ["500 u 2 5"]
      (some
      ["lc 2 5 2 3 1 2lv a 1s6 u 2 5"]),
    ofRuns ["lana", "taitham"]
      ["55s 1r 1 t 2 b 6 a 6 e"]
      none,
    ofRuns ["tavt", "taiviet"]
      ["xog 1v o 5"]
      none,
    ofRuns ["tayo", "taiyo"]
      ["2o5c v 1 m 8 2"]
      none,
    ofRuns ["takr", "takri"]
      ["1j0g 1m 6 a"]
      (some
      ["1us 2 vd6 a ls6 1m 6 a"]),
    ofRuns ["taml", "tamil"]
      ["29u 2 1 6 3 3 1 4 3 2 1 1 1 2 3 2 3 3 3 c 4 5 3 3 1 4 2 1 6 1 e l 1ih1 1e d 1"]
      (some
      ["1u9 2 h 2 f0 2 1 6 3 3 1 4 3 2 1 1 1 2 3 2 3 3 3 c 4 5 3 3 1 4 2 1 6 1 e l 3bz 1 ro8 1",
       "ky5 1 1 1 1j 2 2gz 1e d 1"]),
    ofRuns ["tnsa", "tangsa"]
      ["1zlc 27 1 a"]
      none,
    ofRuns ["tang", "tangut"]
      ["20o0 1 v 5c0 e8 v 2p 37"]
      (some
      ["9gw g dr 1 1qsw 1 v 5c0 e8 v 2p 37"]),
    ofRuns ["telu", "telugu"]
      ["2dc d 1 3 1 n 1 g 2 9 1 3 1 4 7 2 1 3 1 2 2 4 2 a 7 9"]
      (some
      ["1u9 2 h 2 ii d 1 3 1 n 1 g 2 9 1 3 1 4 7 2 1 3 1 2 2 4 2 a 7 9 385 2 1 1 1 1 n 1"]),
    ofRuns ["thaa", "thaana"]
      ["1hc 1e"]
      (some
      ["170 1 e 2 2 1 1s a 7q 1e 1cn4 1 a 1"]),
    ofRuns ["thai"]
      ["2rl 1m 5 s"]
      (some
      ["jg 1 q 1 17 1 19 1 24v 1m 5 s"]),
    ofRuns ["tibt", "tibetan"]
      ["2yo 20 1 10 4 13 1 10 1 f 1 7 4 2"]
      (some
      ["2yo 20 1 10 4 13 1 10 1 f 1 7 4 2 6ct 4"]),
    ofRuns ["tfng", "tifinagh"]
      ["8xc 1k 7 2 e 1"]
      (some
      ["le 1 1 1 1 4 p 1 8b0 1k 7 2 e 1"]),
    ofRuns ["tirh", "tirhuta"]
      ["1im8 20 8 a"]
      (some
      ["1u9 2 h 2 3u7 1 c 1 f 1 ri5 a ldy 20 8 a"]),
    ofRuns ["todr", "todhri"]
      ["1fpc 1g"]
      (some
      ["ld 1 2 1 2 1 9 1 1 1 22 1 1f1d 1g"]),
    ofRuns ["tols", "tolongsiki"]
      ["1kfk 18 4 a"]
      none,
    ofRuns ["toto"]
      ["2nbk v"]
      (some
      ["jg 1 2ms3 v"]),
    ofRuns ["tutg", "tulutigalari"]
      ["1if4 a 1 1 2 1 1 12 1 a 1 1 2 1 1 4 1 a 1 2 8 2"]
      (some
      ["2jq a 35u 1 1 1 ri3 6 57 1 l1q a 1 1 2 1 1 12 1 a 1 1 2 1 1 4 1 a 1 2 8 2"]),
    ofRuns ["ugar", "ugaritic"]
      ["1f9c u 1 1"]
      none,
    ofRuns ["vaii", "vai"]
      ["wlc 8c"]
      none,
    ofRuns ["vith", "vithkuqi"]
      ["1fn4 b 1 f 1 7 1 2 1 b 1 f 1 7 1 2"]
      none,
    ofRuns ["wcho", "wancho"]
      ["2ncw 1m 5 1"]
      none,
    ofRuns ["wara", "warangciti"]
      ["1jfk 2b c 1"]
      none,
    ofRuns ["yezi", "yezidi"]
      ["1hfk 16 1 3 2 2"]
      (some
      ["170 1 e 1 3 1 1s a 1g5y 16 1 3 2 2"]),
    ofRuns ["yiii", "yi"]
      ["vls wd 3 1j"]
      (some
      ["9hd 2 5 a 2 8 67 1 lxg wd 3 1j hwa 5"]),
    ofRuns ["zanb", "zanabazarsquare"]
      ["1jpc 20"]
      none]

/-- The script with a name. -/
def find? (name : String) : Option Script :=
  table.find? fun script => script.names.contains name

end Script

end CourseFeed.Text
