import SupplyCatalog.Text.CodeRun

/-!
# Characters and their spellings

Characters that are the same as a text of other characters: letters with accents, and characters
that exist twice. The first are what a text is composed to; the others are always given up for the
characters they are spelled with.
-/

namespace SupplyCatalog.Text

open WordRun in
/-- Characters that a letter and the marks behind it make up. -/
def composedRuns : List WordRun :=
  [ofText 0xC0 "A\u0300 A\u0301 A\u0302 A\u0303 A\u0308 A\u030A",
    ofText 0xC7 "C\u0327 E\u0300 E\u0301 E\u0302 E\u0308 I\u0300 I\u0301 I\u0302 I\u0308",
    ofText 0xD1 "N\u0303 O\u0300 O\u0301 O\u0302 O\u0303 O\u0308",
    ofText 0xD9 "U\u0300 U\u0301 U\u0302 U\u0308 Y\u0301",
    ofText 0xE0 "a\u0300 a\u0301 a\u0302 a\u0303 a\u0308 a\u030A",
    ofText 0xE7 "c\u0327 e\u0300 e\u0301 e\u0302 e\u0308 i\u0300 i\u0301 i\u0302 i\u0308",
    ofText 0xF1 "n\u0303 o\u0300 o\u0301 o\u0302 o\u0303 o\u0308",
    ofText 0xF9 "u\u0300 u\u0301 u\u0302 u\u0308 y\u0301",
    ofText 0xFF "y\u0308 A\u0304 a\u0304 A\u0306 a\u0306 A\u0328 a\u0328 C\u0301 c\u0301 C\u0302",
    ofText 0x109 "c\u0302 C\u0307 c\u0307 C\u030C c\u030C D\u030C d\u030C",
    ofText 0x112 "E\u0304 e\u0304 E\u0306 e\u0306 E\u0307 e\u0307 E\u0328 e\u0328 E\u030C e\u030C",
    ofText 0x11C "G\u0302 g\u0302 G\u0306 g\u0306 G\u0307 g\u0307 G\u0327 g\u0327 H\u0302 h\u0302",
    ofText 0x128 "I\u0303 i\u0303 I\u0304 i\u0304 I\u0306 i\u0306 I\u0328 i\u0328 I\u0307",
    ofText 0x134 "J\u0302 j\u0302 K\u0327 k\u0327",
    ofText 0x139 "L\u0301 l\u0301 L\u0327 l\u0327 L\u030C l\u030C",
    ofText 0x143 "N\u0301 n\u0301 N\u0327 n\u0327 N\u030C n\u030C",
    ofText 0x14C "O\u0304 o\u0304 O\u0306 o\u0306 O\u030B o\u030B",
    ofText 0x154 "R\u0301 r\u0301 R\u0327 r\u0327 R\u030C r\u030C S\u0301 s\u0301 S\u0302 s\u0302",
    ofText 0x15E "S\u0327 s\u0327 S\u030C s\u030C T\u0327 t\u0327 T\u030C t\u030C",
    ofText 0x168 "U\u0303 u\u0303 U\u0304 u\u0304 U\u0306 u\u0306 U\u030A u\u030A U\u030B u\u030B",
    ofText 0x172 "U\u0328 u\u0328 W\u0302 w\u0302 Y\u0302 y\u0302 Y\u0308 Z\u0301 z\u0301 Z\u0307",
    ofText 0x17C "z\u0307 Z\u030C z\u030C", ofText 0x1A0 "O\u031B o\u031B",
    ofText 0x1AF "U\u031B u\u031B",
    ofText 0x1CD "A\u030C a\u030C I\u030C i\u030C O\u030C o\u030C U\u030C u\u030C U\u0308\u0304",
    ofText 0x1D6 "u\u0308\u0304 U\u0308\u0301 u\u0308\u0301 U\u0308\u030C u\u0308\u030C",
    ofText 0x1DB "U\u0308\u0300 u\u0308\u0300",
    ofText 0x1DE "A\u0308\u0304 a\u0308\u0304 A\u0307\u0304 a\u0307\u0304 Æ\u0304 æ\u0304",
    ofText 0x1E6 "G\u030C g\u030C K\u030C k\u030C O\u0328 o\u0328 O\u0328\u0304 o\u0328\u0304",
    ofText 0x1EE "Ʒ\u030C ʒ\u030C j\u030C", ofText 0x1F4 "G\u0301 g\u0301",
    ofText 0x1F8 "N\u0300 n\u0300 A\u030A\u0301 a\u030A\u0301 Æ\u0301 æ\u0301 Ø\u0301 ø\u0301",
    ofText 0x200 "A\u030F a\u030F A\u0311 a\u0311 E\u030F e\u030F E\u0311 e\u0311 I\u030F i\u030F",
    ofText 0x20A "I\u0311 i\u0311 O\u030F o\u030F O\u0311 o\u0311 R\u030F r\u030F R\u0311 r\u0311",
    ofText 0x214 "U\u030F u\u030F U\u0311 u\u0311 S\u0326 s\u0326 T\u0326 t\u0326",
    ofText 0x21E "H\u030C h\u030C",
    ofText 0x226 "A\u0307 a\u0307 E\u0327 e\u0327 O\u0308\u0304 o\u0308\u0304 O\u0303\u0304",
    ofText 0x22D "o\u0303\u0304 O\u0307 o\u0307 O\u0307\u0304 o\u0307\u0304 Y\u0304 y\u0304",
    ofText 0x385 "¨\u0301 Α\u0301", ofText 0x388 "Ε\u0301 Η\u0301 Ι\u0301", ofText 0x38C "Ο\u0301",
    ofText 0x38E "Υ\u0301 Ω\u0301 ι\u0308\u0301",
    ofText 0x3AA "Ι\u0308 Υ\u0308 α\u0301 ε\u0301 η\u0301 ι\u0301 υ\u0308\u0301",
    ofText 0x3CA "ι\u0308 υ\u0308 ο\u0301 υ\u0301 ω\u0301", ofText 0x3D3 "ϒ\u0301 ϒ\u0308",
    ofText 0x400 "Е\u0300 Е\u0308", ofText 0x403 "Г\u0301", ofText 0x407 "І\u0308",
    ofText 0x40C "К\u0301 И\u0300 У\u0306", ofText 0x419 "И\u0306", ofText 0x439 "и\u0306",
    ofText 0x450 "е\u0300 е\u0308", ofText 0x453 "г\u0301", ofText 0x457 "і\u0308",
    ofText 0x45C "к\u0301 и\u0300 у\u0306", ofText 0x476 "Ѵ\u030F ѵ\u030F",
    ofText 0x4C1 "Ж\u0306 ж\u0306", ofText 0x4D0 "А\u0306 а\u0306 А\u0308 а\u0308",
    ofText 0x4D6 "Е\u0306 е\u0306", ofText 0x4DA "Ә\u0308 ә\u0308 Ж\u0308 ж\u0308 З\u0308 з\u0308",
    ofText 0x4E2 "И\u0304 и\u0304 И\u0308 и\u0308 О\u0308 о\u0308",
    ofText 0x4EA "Ө\u0308 ө\u0308 Э\u0308 э\u0308 У\u0304 у\u0304 У\u0308 у\u0308 У\u030B у\u030B",
    ofText 0x4F4 "Ч\u0308 ч\u0308", ofText 0x4F8 "Ы\u0308 ы\u0308",
    ofText 0x622 "\u0627\u0653 \u0627\u0654 \u0648\u0654 \u0627\u0655 \u064A\u0654",
    ofText 0x6C0 "\u06D5\u0654", ofText 0x6C2 "\u06C1\u0654", ofText 0x6D3 "\u06D2\u0654",
    ofText 0x929 "न\u093C", ofText 0x931 "र\u093C", ofText 0x934 "ळ\u093C",
    ofText 0x9CB "\u09C7\u09BE \u09C7\u09D7", ofText 0xB48 "\u0B47\u0B56",
    ofText 0xB4B "\u0B47\u0B3E \u0B47\u0B57", ofText 0xB94 "ஒ\u0BD7",
    ofText 0xBCA "\u0BC6\u0BBE \u0BC7\u0BBE \u0BC6\u0BD7", ofText 0xC48 "\u0C46\u0C56",
    ofText 0xCC0 "\u0CBF\u0CD5", ofText 0xCC7 "\u0CC6\u0CD5 \u0CC6\u0CD6",
    ofText 0xCCA "\u0CC6\u0CC2 \u0CC6\u0CC2\u0CD5",
    ofText 0xD4A "\u0D46\u0D3E \u0D47\u0D3E \u0D46\u0D57", ofText 0xDDA "\u0DD9\u0DCA",
    ofText 0xDDC "\u0DD9\u0DCF \u0DD9\u0DCF\u0DCA \u0DD9\u0DDF", ofText 0x1026 "ဥ\u102E",
    ofText 0x1B06 "ᬅ\u1B35", ofText 0x1B08 "ᬇ\u1B35", ofText 0x1B0A "ᬉ\u1B35",
    ofText 0x1B0C "ᬋ\u1B35", ofText 0x1B0E "ᬍ\u1B35", ofText 0x1B12 "ᬑ\u1B35",
    ofText 0x1B3B "\u1B3A\u1B35", ofText 0x1B3D "\u1B3C\u1B35",
    ofText 0x1B40 "\u1B3E\u1B35 \u1B3F\u1B35", ofText 0x1B43 "\u1B42\u1B35",
    ofText 0x1E00 "A\u0325 a\u0325 B\u0307 b\u0307 B\u0323 b\u0323 B\u0331 b\u0331 C\u0327\u0301",
    ofText 0x1E09 "c\u0327\u0301 D\u0307 d\u0307 D\u0323 d\u0323 D\u0331 d\u0331 D\u0327 d\u0327",
    ofText 0x1E12 "D\u032D d\u032D E\u0304\u0300 e\u0304\u0300 E\u0304\u0301 e\u0304\u0301 E\u032D",
    ofText 0x1E19 "e\u032D E\u0330 e\u0330 E\u0327\u0306 e\u0327\u0306 F\u0307 f\u0307 G\u0304",
    ofText 0x1E21 "g\u0304 H\u0307 h\u0307 H\u0323 h\u0323 H\u0308 h\u0308 H\u0327 h\u0327 H\u032E",
    ofText 0x1E2B "h\u032E I\u0330 i\u0330 I\u0308\u0301 i\u0308\u0301 K\u0301 k\u0301 K\u0323",
    ofText 0x1E33 "k\u0323 K\u0331 k\u0331 L\u0323 l\u0323 L\u0323\u0304 l\u0323\u0304 L\u0331",
    ofText 0x1E3B "l\u0331 L\u032D l\u032D M\u0301 m\u0301 M\u0307 m\u0307 M\u0323 m\u0323 N\u0307",
    ofText 0x1E45 "n\u0307 N\u0323 n\u0323 N\u0331 n\u0331 N\u032D n\u032D O\u0303\u0301",
    ofText 0x1E4D "o\u0303\u0301 O\u0303\u0308 o\u0303\u0308 O\u0304\u0300 o\u0304\u0300",
    ofText 0x1E52 "O\u0304\u0301 o\u0304\u0301 P\u0301 p\u0301 P\u0307 p\u0307 R\u0307 r\u0307",
    ofText 0x1E5A "R\u0323 r\u0323 R\u0323\u0304 r\u0323\u0304 R\u0331 r\u0331 S\u0307 s\u0307",
    ofText 0x1E62 "S\u0323 s\u0323 S\u0301\u0307 s\u0301\u0307 S\u030C\u0307 s\u030C\u0307",
    ofText 0x1E68 "S\u0323\u0307 s\u0323\u0307 T\u0307 t\u0307 T\u0323 t\u0323 T\u0331 t\u0331",
    ofText 0x1E70 "T\u032D t\u032D U\u0324 u\u0324 U\u0330 u\u0330 U\u032D u\u032D U\u0303\u0301",
    ofText 0x1E79 "u\u0303\u0301 U\u0304\u0308 u\u0304\u0308 V\u0303 v\u0303 V\u0323 v\u0323",
    ofText 0x1E80 "W\u0300 w\u0300 W\u0301 w\u0301 W\u0308 w\u0308 W\u0307 w\u0307 W\u0323 w\u0323",
    ofText 0x1E8A "X\u0307 x\u0307 X\u0308 x\u0308 Y\u0307 y\u0307 Z\u0302 z\u0302 Z\u0323 z\u0323",
    ofText 0x1E94 "Z\u0331 z\u0331 h\u0331 t\u0308 w\u030A y\u030A", ofText 0x1E9B "ſ\u0307",
    ofText 0x1EA0 "A\u0323 a\u0323 A\u0309 a\u0309 A\u0302\u0301 a\u0302\u0301 A\u0302\u0300",
    ofText 0x1EA7 "a\u0302\u0300 A\u0302\u0309 a\u0302\u0309 A\u0302\u0303 a\u0302\u0303",
    ofText 0x1EAC "A\u0323\u0302 a\u0323\u0302 A\u0306\u0301 a\u0306\u0301 A\u0306\u0300",
    ofText 0x1EB1 "a\u0306\u0300 A\u0306\u0309 a\u0306\u0309 A\u0306\u0303 a\u0306\u0303",
    ofText 0x1EB6 "A\u0323\u0306 a\u0323\u0306 E\u0323 e\u0323 E\u0309 e\u0309 E\u0303 e\u0303",
    ofText 0x1EBE "E\u0302\u0301 e\u0302\u0301 E\u0302\u0300 e\u0302\u0300 E\u0302\u0309",
    ofText 0x1EC3 "e\u0302\u0309 E\u0302\u0303 e\u0302\u0303 E\u0323\u0302 e\u0323\u0302 I\u0309",
    ofText 0x1EC9 "i\u0309 I\u0323 i\u0323 O\u0323 o\u0323 O\u0309 o\u0309 O\u0302\u0301",
    ofText 0x1ED1 "o\u0302\u0301 O\u0302\u0300 o\u0302\u0300 O\u0302\u0309 o\u0302\u0309",
    ofText 0x1ED6 "O\u0302\u0303 o\u0302\u0303 O\u0323\u0302 o\u0323\u0302 O\u031B\u0301",
    ofText 0x1EDB "o\u031B\u0301 O\u031B\u0300 o\u031B\u0300 O\u031B\u0309 o\u031B\u0309",
    ofText 0x1EE0 "O\u031B\u0303 o\u031B\u0303 O\u031B\u0323 o\u031B\u0323 U\u0323 u\u0323 U\u0309",
    ofText 0x1EE7 "u\u0309 U\u031B\u0301 u\u031B\u0301 U\u031B\u0300 u\u031B\u0300 U\u031B\u0309",
    ofText 0x1EED "u\u031B\u0309 U\u031B\u0303 u\u031B\u0303 U\u031B\u0323 u\u031B\u0323 Y\u0300",
    ofText 0x1EF3 "y\u0300 Y\u0323 y\u0323 Y\u0309 y\u0309 Y\u0303 y\u0303",
    ofText 0x1F00 "α\u0313 α\u0314 α\u0313\u0300 α\u0314\u0300 α\u0313\u0301 α\u0314\u0301",
    ofText 0x1F06 "α\u0313\u0342 α\u0314\u0342 Α\u0313 Α\u0314 Α\u0313\u0300 Α\u0314\u0300",
    ofText 0x1F0C "Α\u0313\u0301 Α\u0314\u0301 Α\u0313\u0342 Α\u0314\u0342 ε\u0313 ε\u0314",
    ofText 0x1F12 "ε\u0313\u0300 ε\u0314\u0300 ε\u0313\u0301 ε\u0314\u0301",
    ofText 0x1F18 "Ε\u0313 Ε\u0314 Ε\u0313\u0300 Ε\u0314\u0300 Ε\u0313\u0301 Ε\u0314\u0301",
    ofText 0x1F20 "η\u0313 η\u0314 η\u0313\u0300 η\u0314\u0300 η\u0313\u0301 η\u0314\u0301",
    ofText 0x1F26 "η\u0313\u0342 η\u0314\u0342 Η\u0313 Η\u0314 Η\u0313\u0300 Η\u0314\u0300",
    ofText 0x1F2C "Η\u0313\u0301 Η\u0314\u0301 Η\u0313\u0342 Η\u0314\u0342 ι\u0313 ι\u0314",
    ofText 0x1F32 "ι\u0313\u0300 ι\u0314\u0300 ι\u0313\u0301 ι\u0314\u0301 ι\u0313\u0342",
    ofText 0x1F37 "ι\u0314\u0342 Ι\u0313 Ι\u0314 Ι\u0313\u0300 Ι\u0314\u0300 Ι\u0313\u0301",
    ofText 0x1F3D "Ι\u0314\u0301 Ι\u0313\u0342 Ι\u0314\u0342 ο\u0313 ο\u0314 ο\u0313\u0300",
    ofText 0x1F43 "ο\u0314\u0300 ο\u0313\u0301 ο\u0314\u0301",
    ofText 0x1F48 "Ο\u0313 Ο\u0314 Ο\u0313\u0300 Ο\u0314\u0300 Ο\u0313\u0301 Ο\u0314\u0301",
    ofText 0x1F50 "υ\u0313 υ\u0314 υ\u0313\u0300 υ\u0314\u0300 υ\u0313\u0301 υ\u0314\u0301",
    ofText 0x1F56 "υ\u0313\u0342 υ\u0314\u0342", ofText 0x1F59 "Υ\u0314",
    ofText 0x1F5B "Υ\u0314\u0300", ofText 0x1F5D "Υ\u0314\u0301",
    ofText 0x1F5F "Υ\u0314\u0342 ω\u0313 ω\u0314 ω\u0313\u0300 ω\u0314\u0300 ω\u0313\u0301",
    ofText 0x1F65 "ω\u0314\u0301 ω\u0313\u0342 ω\u0314\u0342 Ω\u0313 Ω\u0314 Ω\u0313\u0300",
    ofText 0x1F6B "Ω\u0314\u0300 Ω\u0313\u0301 Ω\u0314\u0301 Ω\u0313\u0342 Ω\u0314\u0342 α\u0300",
    ofText 0x1F72 "ε\u0300", ofText 0x1F74 "η\u0300", ofText 0x1F76 "ι\u0300",
    ofText 0x1F78 "ο\u0300", ofText 0x1F7A "υ\u0300", ofText 0x1F7C "ω\u0300",
    ofText 0x1F80 "α\u0313\u0345 α\u0314\u0345 α\u0313\u0300\u0345 α\u0314\u0300\u0345",
    ofText 0x1F84 "α\u0313\u0301\u0345 α\u0314\u0301\u0345 α\u0313\u0342\u0345 α\u0314\u0342\u0345",
    ofText 0x1F88 "Α\u0313\u0345 Α\u0314\u0345 Α\u0313\u0300\u0345 Α\u0314\u0300\u0345",
    ofText 0x1F8C "Α\u0313\u0301\u0345 Α\u0314\u0301\u0345 Α\u0313\u0342\u0345 Α\u0314\u0342\u0345",
    ofText 0x1F90 "η\u0313\u0345 η\u0314\u0345 η\u0313\u0300\u0345 η\u0314\u0300\u0345",
    ofText 0x1F94 "η\u0313\u0301\u0345 η\u0314\u0301\u0345 η\u0313\u0342\u0345 η\u0314\u0342\u0345",
    ofText 0x1F98 "Η\u0313\u0345 Η\u0314\u0345 Η\u0313\u0300\u0345 Η\u0314\u0300\u0345",
    ofText 0x1F9C "Η\u0313\u0301\u0345 Η\u0314\u0301\u0345 Η\u0313\u0342\u0345 Η\u0314\u0342\u0345",
    ofText 0x1FA0 "ω\u0313\u0345 ω\u0314\u0345 ω\u0313\u0300\u0345 ω\u0314\u0300\u0345",
    ofText 0x1FA4 "ω\u0313\u0301\u0345 ω\u0314\u0301\u0345 ω\u0313\u0342\u0345 ω\u0314\u0342\u0345",
    ofText 0x1FA8 "Ω\u0313\u0345 Ω\u0314\u0345 Ω\u0313\u0300\u0345 Ω\u0314\u0300\u0345",
    ofText 0x1FAC "Ω\u0313\u0301\u0345 Ω\u0314\u0301\u0345 Ω\u0313\u0342\u0345 Ω\u0314\u0342\u0345",
    ofText 0x1FB0 "α\u0306 α\u0304 α\u0300\u0345 α\u0345 α\u0301\u0345",
    ofText 0x1FB6 "α\u0342 α\u0342\u0345 Α\u0306 Α\u0304 Α\u0300", ofText 0x1FBC "Α\u0345",
    ofText 0x1FC1 "¨\u0342 η\u0300\u0345 η\u0345 η\u0301\u0345",
    ofText 0x1FC6 "η\u0342 η\u0342\u0345 Ε\u0300", ofText 0x1FCA "Η\u0300",
    ofText 0x1FCC "Η\u0345 ᾿\u0300 ᾿\u0301 ᾿\u0342 ι\u0306 ι\u0304 ι\u0308\u0300",
    ofText 0x1FD6 "ι\u0342 ι\u0308\u0342 Ι\u0306 Ι\u0304 Ι\u0300",
    ofText 0x1FDD "῾\u0300 ῾\u0301 ῾\u0342 υ\u0306 υ\u0304 υ\u0308\u0300",
    ofText 0x1FE4 "ρ\u0313 ρ\u0314 υ\u0342 υ\u0308\u0342 Υ\u0306 Υ\u0304 Υ\u0300",
    ofText 0x1FEC "Ρ\u0314 ¨\u0300", ofText 0x1FF2 "ω\u0300\u0345 ω\u0345 ω\u0301\u0345",
    ofText 0x1FF6 "ω\u0342 ω\u0342\u0345 Ο\u0300", ofText 0x1FFA "Ω\u0300", ofText 0x1FFC "Ω\u0345",
    ofText 0x219A "←\u0338 →\u0338", ofText 0x21AE "↔\u0338",
    ofText 0x21CD "⇐\u0338 ⇔\u0338 ⇒\u0338", ofText 0x2204 "∃\u0338", ofText 0x2209 "∈\u0338",
    ofText 0x220C "∋\u0338", ofText 0x2224 "∣\u0338", ofText 0x2226 "∥\u0338",
    ofText 0x2241 "∼\u0338", ofText 0x2244 "≃\u0338", ofText 0x2247 "≅\u0338",
    ofText 0x2249 "≈\u0338", ofText 0x2260 "=\u0338", ofText 0x2262 "≡\u0338",
    ofText 0x226D "≍\u0338 <\u0338 >\u0338 ≤\u0338 ≥\u0338", ofText 0x2274 "≲\u0338 ≳\u0338",
    ofText 0x2278 "≶\u0338 ≷\u0338", ofText 0x2280 "≺\u0338 ≻\u0338",
    ofText 0x2284 "⊂\u0338 ⊃\u0338", ofText 0x2288 "⊆\u0338 ⊇\u0338",
    ofText 0x22AC "⊢\u0338 ⊨\u0338 ⊩\u0338 ⊫\u0338",
    ofText 0x22E0 "≼\u0338 ≽\u0338 ⊑\u0338 ⊒\u0338",
    ofText 0x22EA "⊲\u0338 ⊳\u0338 ⊴\u0338 ⊵\u0338", ofText 0x304C "か\u3099",
    ofText 0x304E "き\u3099", ofText 0x3050 "く\u3099", ofText 0x3052 "け\u3099",
    ofText 0x3054 "こ\u3099", ofText 0x3056 "さ\u3099", ofText 0x3058 "し\u3099",
    ofText 0x305A "す\u3099", ofText 0x305C "せ\u3099", ofText 0x305E "そ\u3099",
    ofText 0x3060 "た\u3099", ofText 0x3062 "ち\u3099", ofText 0x3065 "つ\u3099",
    ofText 0x3067 "て\u3099", ofText 0x3069 "と\u3099", ofText 0x3070 "は\u3099 は\u309A",
    ofText 0x3073 "ひ\u3099 ひ\u309A", ofText 0x3076 "ふ\u3099 ふ\u309A",
    ofText 0x3079 "へ\u3099 へ\u309A", ofText 0x307C "ほ\u3099 ほ\u309A", ofText 0x3094 "う\u3099",
    ofText 0x309E "ゝ\u3099", ofText 0x30AC "カ\u3099", ofText 0x30AE "キ\u3099",
    ofText 0x30B0 "ク\u3099", ofText 0x30B2 "ケ\u3099", ofText 0x30B4 "コ\u3099",
    ofText 0x30B6 "サ\u3099", ofText 0x30B8 "シ\u3099", ofText 0x30BA "ス\u3099",
    ofText 0x30BC "セ\u3099", ofText 0x30BE "ソ\u3099", ofText 0x30C0 "タ\u3099",
    ofText 0x30C2 "チ\u3099", ofText 0x30C5 "ツ\u3099", ofText 0x30C7 "テ\u3099",
    ofText 0x30C9 "ト\u3099", ofText 0x30D0 "ハ\u3099 ハ\u309A", ofText 0x30D3 "ヒ\u3099 ヒ\u309A",
    ofText 0x30D6 "フ\u3099 フ\u309A", ofText 0x30D9 "ヘ\u3099 ヘ\u309A",
    ofText 0x30DC "ホ\u3099 ホ\u309A", ofText 0x30F4 "ウ\u3099",
    ofText 0x30F7 "ワ\u3099 ヰ\u3099 ヱ\u3099 ヲ\u3099", ofText 0x30FE "ヽ\u3099",
    ofText 0x105C9 "𐗒\u0307", ofText 0x105E4 "𐗚\u0307", ofText 0x1109A "𑂚", ofText 0x1109C "𑂜",
    ofText 0x110AB "𑂫", ofText 0x1112E "𑄮 𑄯", ofText 0x1134B "𑍋 𑍌", ofText 0x11383 "𑎃",
    ofText 0x11385 "𑎅", ofText 0x1138E "𑎎", ofText 0x11391 "𑎑", ofText 0x113C5 "𑏅",
    ofText 0x113C7 "𑏇 𑏈", ofText 0x114BB "𑒻 𑒼", ofText 0x114BE "𑒾", ofText 0x115BA "𑖺 𑖻",
    ofText 0x11938 "𑤸", ofText 0x16121 "𖄡 𖄢 𖄣 𖄤 𖄥 𖄦 𖄧 𖄨", ofText 0x16D68 "𖵨 𖵩 𖵪"]

open WordRun in
/-- Characters that no composed text has. -/
def replacedRuns : List WordRun :=
  [ofText 0x340 "\u0300 \u0301", ofText 0x343 "\u0313 \u0308\u0301", ofText 0x374 "ʹ",
    ofText 0x37E ";", ofText 0x387 "·",
    ofText 0x958 "क\u093C ख\u093C ग\u093C ज\u093C ड\u093C ढ\u093C फ\u093C य\u093C",
    ofText 0x9DC "ড\u09BC ঢ\u09BC", ofText 0x9DF "য\u09BC", ofText 0xA33 "ਲ\u0A3C",
    ofText 0xA36 "ਸ\u0A3C", ofText 0xA59 "ਖ\u0A3C ਗ\u0A3C ਜ\u0A3C", ofText 0xA5E "ਫ\u0A3C",
    ofText 0xB5C "ଡ\u0B3C ଢ\u0B3C", ofText 0xF43 "ག\u0FB7", ofText 0xF4D "ཌ\u0FB7",
    ofText 0xF52 "ད\u0FB7", ofText 0xF57 "བ\u0FB7", ofText 0xF5C "ཛ\u0FB7", ofText 0xF69 "ཀ\u0FB5",
    ofText 0xF73 "\u0F71\u0F72", ofText 0xF75 "\u0F71\u0F74 \u0FB2\u0F80",
    ofText 0xF78 "\u0FB3\u0F80", ofText 0xF81 "\u0F71\u0F80", ofText 0xF93 "\u0F92\u0FB7",
    ofText 0xF9D "\u0F9C\u0FB7", ofText 0xFA2 "\u0FA1\u0FB7", ofText 0xFA7 "\u0FA6\u0FB7",
    ofText 0xFAC "\u0FAB\u0FB7", ofText 0xFB9 "\u0F90\u0FB5", ofText 0x1F71 "α\u0301",
    ofText 0x1F73 "ε\u0301", ofText 0x1F75 "η\u0301", ofText 0x1F77 "ι\u0301",
    ofText 0x1F79 "ο\u0301", ofText 0x1F7B "υ\u0301", ofText 0x1F7D "ω\u0301",
    ofText 0x1FBB "Α\u0301", ofText 0x1FBE "ι", ofText 0x1FC9 "Ε\u0301", ofText 0x1FCB "Η\u0301",
    ofText 0x1FD3 "ι\u0308\u0301", ofText 0x1FDB "Ι\u0301", ofText 0x1FE3 "υ\u0308\u0301",
    ofText 0x1FEB "Υ\u0301", ofText 0x1FEE "¨\u0301 `", ofText 0x1FF9 "Ο\u0301",
    ofText 0x1FFB "Ω\u0301", ofText 0x1FFD "´", ofText 0x2000 "\u2002 \u2003", ofText 0x2126 "Ω",
    ofText 0x212A "K A\u030A", ofText 0x2329 "〈 〉", ofText 0x2ADC "⫝\u0338",
    ofText 0xF900 "豈 更 車 賈 滑 串 句 龜 龜 契 金 喇 奈 懶 癩 羅 蘿 螺 裸 邏 樂 洛 烙 珞 落 酪 駱 亂 卵 欄 爛 蘭 鸞 嵐 濫 藍 襤 拉 臘 蠟",
    ofText 0xF928 "廊 朗 浪 狼 郎 來 冷 勞 擄 櫓 爐 盧 老 蘆 虜 路 露 魯 鷺 碌 祿 綠 菉 錄 鹿 論 壟 弄 籠 聾 牢 磊 賂 雷 壘 屢 樓 淚 漏 累",
    ofText 0xF950 "縷 陋 勒 肋 凜 凌 稜 綾 菱 陵 讀 拏 樂 諾 丹 寧 怒 率 異 北 磻 便 復 不 泌 數 索 參 塞 省 葉 說 殺 辰 沈 拾 若 掠 略 亮",
    ofText 0xF978 "兩 凉 梁 糧 良 諒 量 勵 呂 女 廬 旅 濾 礪 閭 驪 麗 黎 力 曆 歷 轢 年 憐 戀 撚 漣 煉 璉 秊 練 聯 輦 蓮 連 鍊 列 劣 咽 烈",
    ofText 0xF9A0 "裂 說 廉 念 捻 殮 簾 獵 令 囹 寧 嶺 怜 玲 瑩 羚 聆 鈴 零 靈 領 例 禮 醴 隸 惡 了 僚 寮 尿 料 樂 燎 療 蓼 遼 龍 暈 阮 劉",
    ofText 0xF9C8 "杻 柳 流 溜 琉 留 硫 紐 類 六 戮 陸 倫 崙 淪 輪 律 慄 栗 率 隆 利 吏 履 易 李 梨 泥 理 痢 罹 裏 裡 里 離 匿 溺 吝 燐 璘",
    ofText 0xF9F0 "藺 隣 鱗 麟 林 淋 臨 立 笠 粒 狀 炙 識 什 茶 刺 切 度 拓 糖 宅 洞 暴 輻 行 降 見 廓 兀 嗀", ofText 0xFA10 "塚",
    ofText 0xFA12 "晴", ofText 0xFA15 "凞 猪 益 礼 神 祥 福 靖 精 羽", ofText 0xFA20 "蘒", ofText 0xFA22 "諸",
    ofText 0xFA25 "逸 都", ofText 0xFA2A "飯 飼 館 鶴 郞 隷 侮 僧 免 勉 勤 卑 喝 嘆 器 塀 墨 層 屮 悔 慨 憎 懲 敏 既 暑 梅 海 渚",
    ofText 0xFA47 "漢 煮 爫 琢 碑 社 祉 祈 祐 祖 祝 禍 禎 穀 突 節 練 縉 繁 署 者 臭 艹 艹 著 褐 視 謁 謹 賓 贈 辶 逸 難 響 頻 恵 𤋮 舘",
    ofText 0xFA70 "並 况 全 侀 充 冀 勇 勺 喝 啕 喙 嗢 塚 墳 奄 奔 婢 嬨 廒 廙 彩 徭 惘 慎 愈 憎 慠 懲 戴 揄 搜 摒 敖 晴 朗 望 杖 歹 殺 流",
    ofText 0xFA98 "滛 滋 漢 瀞 煮 瞧 爵 犯 猪 瑱 甆 画 瘝 瘟 益 盛 直 睊 着 磌 窱 節 类 絛 練 缾 者 荒 華 蝹 襁 覆 視 調 諸 請 謁 諾 諭 謹",
    ofText 0xFAC0 "變 贈 輸 遲 醙 鉶 陼 難 靖 韛 響 頋 頻 鬒 龜 𢡊 𢡄 𣏕 㮝 䀘 䀹 𥉉 𥳐 𧻓 齃 龎",
    ofText 0xFB1D "\u05D9\u05B4", ofText 0xFB1F "\u05F2\u05B7",
    ofText 0xFB2A "\u05E9\u05C1 \u05E9\u05C2 \u05E9\u05BC\u05C1 \u05E9\u05BC\u05C2 \u05D0\u05B7",
    ofText 0xFB2F "\u05D0\u05B8 \u05D0\u05BC \u05D1\u05BC \u05D2\u05BC \u05D3\u05BC \u05D4\u05BC",
    ofText 0xFB35 "\u05D5\u05BC \u05D6\u05BC",
    ofText 0xFB38 "\u05D8\u05BC \u05D9\u05BC \u05DA\u05BC \u05DB\u05BC \u05DC\u05BC",
    ofText 0xFB3E "\u05DE\u05BC", ofText 0xFB40 "\u05E0\u05BC \u05E1\u05BC",
    ofText 0xFB43 "\u05E3\u05BC \u05E4\u05BC",
    ofText 0xFB46 "\u05E6\u05BC \u05E7\u05BC \u05E8\u05BC \u05E9\u05BC \u05EA\u05BC \u05D5\u05B9",
    ofText 0xFB4C "\u05D1\u05BF \u05DB\u05BF \u05E4\u05BF",
    ofText 0x1D15E "𝅗𝅥 𝅘𝅥 𝅘𝅥𝅮 𝅘𝅥𝅯 𝅘𝅥𝅰 𝅘𝅥𝅱 𝅘𝅥𝅲", ofText 0x1D1BB "𝆹𝅥 𝆺𝅥 𝆹𝅥𝅮 𝆺𝅥𝅮 𝆹𝅥𝅯 𝆺𝅥𝅯",
    ofText 0x2F800 "丽 丸 乁 𠄢 你 侮 侻 倂 偺 備 僧 像 㒞 𠘺 免 兔 兤 具 𠔜 㒹 內 再 𠕋 冗 冤 仌 冬 况 𩇟 凵 刃 㓟 刻 剆 割 剷 㔕 勇 勉",
    ofText 0x2F827 "勤 勺 包 匆 北 卉 卑 博 即 卽 卿 卿 卿 𠨬 灰 及 叟 𠭣 叫 叱 吆 咞 吸 呈 周 咢 哶 唐 啓 啣 善 善 喙 喫 喳 嗂 圖 嘆 圗",
    ofText 0x2F84E "噑 噴 切 壮 城 埴 堍 型 堲 報 墬 𡓤 売 壷 夆 多 夢 奢 𡚨 𡛪 姬 娛 娧 姘 婦 㛮 㛼 嬈 嬾 嬾 𡧈 寃 寘 寧 寳 𡬘 寿 将 当",
    ofText 0x2F875 "尢 㞁 屠 屮 峀 岍 𡷤 嵃 𡷦 嵮 嵫 嵼 巡 巢 㠯 巽 帨 帽 幩 㡢 𢆃 㡼 庰 庳 庶 廊 𪎒 廾 𢌱 𢌱 舁 弢 弢 㣇 𣊸 𦇚 形 彫 㣣",
    ofText 0x2F89C "徚 忍 志 忹 悁 㤺 㤜 悔 𢛔 惇 慈 慌 慎 慌 慺 憎 憲 憤 憯 懞 懲 懶 成 戛 扝 抱 拔 捐 𢬌 挽 拼 捨 掃 揤 𢯱 搢 揅 掩 㨮",
    ofText 0x2F8C3 "摩 摾 撝 摷 㩬 敏 敬 𣀊 旣 書 晉 㬙 暑 㬈 㫤 冒 冕 最 暜 肭 䏙 朗 望 朡 杞 杓 𣏃 㭉 柺 枅 桒 梅 𣑭 梎 栟 椔 㮝 楂 榣",
    ofText 0x2F8EA "槪 檨 𣚣 櫛 㰘 次 𣢧 歔 㱎 歲 殟 殺 殻 𣪍 𡴋 𣫺 汎 𣲼 沿 泍 汧 洖 派 海 流 浩 浸 涅 𣴞 洴 港 湮 㴳 滋 滇 𣻑 淹 潮 𣽞",
    ofText 0x2F911 "𣾎 濆 瀹 瀞 瀛 㶖 灊 災 灷 炭 𠔥 煅 𤉣 熜 𤎫 爨 爵 牐 𤘈 犀 犕 𤜵 𤠔 獺 王 㺬 玥 㺸 㺸 瑇 瑜 瑱 璅 瓊 㼛 甤 𤰶 甾 𤲒",
    ofText 0x2F938 "異 𢆟 瘐 𤾡 𤾸 𥁄 㿼 䀈 直 𥃳 𥃲 𥄙 𥄳 眞 真 真 睊 䀹 瞋 䁆 䂖 𥐝 硎 碌 磌 䃣 𥘦 祖 𥚚 𥛅 福 秫 䄯 穀 穊 穏 𥥼 𥪧 𥪧",
    ofText 0x2F95F "竮 䈂 𥮫 篆 築 䈧 𥲀 糒 䊠 糨 糣 紀 𥾆 絣 䌁 緇 縂 繅 䌴 𦈨 𦉇 䍙 𦋙 罺 𦌾 羕 翺 者 𦓚 𦔣 聠 𦖨 聰 𣍟 䏕 育 脃 䐋 脾",
    ofText 0x2F986 "媵 𦞧 𦞵 𣎓 𣎜 舁 舄 辞 䑫 芑 芋 芝 劳 花 芳 芽 苦 𦬼 若 茝 荣 莭 茣 莽 菧 著 荓 菊 菌 菜 𦰶 𦵫 𦳕 䔫 蓱 蓳 蔖 𧏊 蕤",
    ofText 0x2F9AD "𦼬 䕝 䕡 𦾱 𧃒 䕫 虐 虜 虧 虩 蚩 蚈 蜎 蛢 蝹 蜨 蝫 螆 䗗 蟡 蠁 䗹 衠 衣 𧙧 裗 裞 䘵 裺 㒻 𧢮 𧥦 䚾 䛇 誠 諭 變 豕 𧲨",
    ofText 0x2F9D4 "貫 賁 贛 起 𧼯 𠠄 跋 趼 跰 𠣞 軔 輸 𨗒 𨗭 邔 郱 鄑 𨜮 鄛 鈸 鋗 鋘 鉼 鏹 鐕 𨯺 開 䦕 閷 𨵷 䧦 雃 嶲 霣 𩅅 𩈚 䩮 䩶 韠",
    ofText 0x2F9FB "𩐊 䪲 𩒖 頋 頋 頩 𩖶 飢 䬳 餩 馧 駂 駾 䯎 𩬰 鬒 鱀 鳽 䳎 䳭 鵧 𪃎 䳸 𪄅 𪈎 𪊑 麻 䵖 黹 黾 鼅 鼏 鼖 鼻 𪘀"]

end SupplyCatalog.Text
