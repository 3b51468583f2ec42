import SupplyCatalog.Text.CodeRun

/-!
# Spellings in domain names

Characters that a domain name is read with other characters for, word by word: ligatures, squared
words, letters in a circle, forms that a letter takes inside a word, signs for numbers.
-/

namespace SupplyCatalog.Url

open SupplyCatalog.Text.WordRun in
def domainSpellings : List Text.WordRun :=
  [ofText 0xAA "a", ofText 0xB2 "2 3", ofText 0xB5 "μ", ofText 0xB9 "1 o",
    ofText 0xBC "1⁄4 1⁄2 3⁄4", ofText 0x132 "ij ij", ofText 0x13F "l· l·", ofText 0x149 "ʼn",
    ofText 0x17F "s", ofText 0x181 "ɓ ƃ", ofText 0x184 "ƅ", ofText 0x186 "ɔ ƈ",
    ofText 0x189 "ɖ ɗ ƌ", ofText 0x18E "ǝ ə ɛ ƒ", ofText 0x193 "ɠ ɣ", ofText 0x196 "ɩ ɨ ƙ",
    ofText 0x19C "ɯ ɲ", ofText 0x19F "ɵ", ofText 0x1A6 "ʀ ƨ", ofText 0x1A9 "ʃ", ofText 0x1AC "ƭ",
    ofText 0x1AE "ʈ", ofText 0x1B1 "ʊ ʋ ƴ", ofText 0x1B5 "ƶ", ofText 0x1B7 "ʒ ƹ", ofText 0x1BC "ƽ",
    ofText 0x1C4 "dž dž dž lj lj lj nj nj nj", ofText 0x1F1 "dz dz dz", ofText 0x1F6 "ƕ ƿ",
    ofText 0x220 "ƞ", ofText 0x23A "ⱥ ȼ", ofText 0x23D "ƚ ⱦ", ofText 0x241 "ɂ",
    ofText 0x243 "ƀ ʉ ʌ", ofText 0x2B0 "h ɦ j r ɹ ɻ ʁ w y", ofText 0x2E0 "ɣ l s x ʕ",
    ofText 0x345 "ι", ofText 0x370 "ͱ", ofText 0x372 "ͳ", ofText 0x376 "ͷ", ofText 0x37F "ϳ",
    ofText 0x3CF "ϗ β θ υ", ofText 0x3D5 "φ π", ofText 0x3F0 "κ ρ σ", ofText 0x3F4 "θ ε",
    ofText 0x3F7 "ϸ", ofText 0x3F9 "σ ϻ", ofText 0x4C0 "ӏ", ofText 0x587 "եւ",
    ofText 0x675 "\u0627\u0674 \u0648\u0674 \u06C7\u0674 \u064A\u0674", ofText 0xE33 "\u0E4Dา",
    ofText 0xEB3 "\u0ECDາ", ofText 0xEDC "ຫນ ຫມ", ofText 0xF0C "་",
    ofText 0xF77 "\u0FB2\u0F71\u0F80", ofText 0xF79 "\u0FB3\u0F71\u0F80", ofText 0x10C7 "ⴧ",
    ofText 0x10CD "ⴭ", ofText 0x10FC "ნ", ofText 0x1C80 "в д о с т т ъ ѣ ꙋ ᲊ",
    ofText 0x1D2C "a æ b", ofText 0x1D30 "d e ǝ", ofText 0x1D3C "o ȣ p r t u w a ɐ ɑ ᴂ b d e ə ɛ ɜ",
    ofText 0x1D4D "g", ofText 0x1D4F "k m ŋ o ɔ ᴖ ᴗ p t u ᴝ ɯ v ᴥ", ofText 0x1D60 "φ χ i r u v β γ",
    ofText 0x1D68 "ρ φ χ", ofText 0x1D78 "н", ofText 0x1D9B "ɒ c ɕ ð ɜ f ɟ ɡ ɥ",
    ofText 0x1DA7 "ᵻ ʝ ɭ ᶅ ʟ ɱ ɰ", ofText 0x1DB2 "ɸ ʂ ʃ ƫ ʉ ʊ ᴜ ʋ ʌ z", ofText 0x1DBF "θ",
    ofText 0x1E9A "aʾ", ofText 0x1E9E "ß", ofText 0x2011 "‐", ofText 0x2033 "′′ ′′′",
    ofText 0x2036 "‵‵ ‵‵‵", ofText 0x203C "!!", ofText 0x2047 "?? ?! !?", ofText 0x2057 "′′′′",
    ofText 0x2070 "0 i", ofText 0x207A "+ − = ( ) n", ofText 0x208A "+ − = ( )",
    ofText 0x2090 "a e o x ə h", ofText 0x209A "p s t", ofText 0x20A8 "rs",
    ofText 0x2100 "a/c a/s c °c", ofText 0x2105 "c/o c/u ɛ", ofText 0x2109 "°f g h h h h ħ i i l l",
    ofText 0x2115 "n no", ofText 0x211C "r r", ofText 0x2120 "sm tel tm", ofText 0x2124 "z",
    ofText 0x2128 "z", ofText 0x212C "b c", ofText 0x212F "e e f ⅎ m o", ofText 0x2139 "i",
    ofText 0x213B "fax π γ γ π ∑", ofText 0x2145 "d d e i j",
    ofText 0x2150 "1⁄7 1⁄9 1⁄10 1⁄3 2⁄3 1⁄5 2⁄5 3⁄5 4⁄5 1⁄6 5⁄6 1⁄8 3⁄8 5⁄8 7⁄8 1⁄ i ii iii iv v",
    ofText 0x2165 "vi vii viii ix x xi xii l c d m i ii iii iv v vi vii viii ix x xi xii l c d m",
    ofText 0x2183 "ↄ", ofText 0x2189 "0⁄3", ofText 0x222C "∫∫ ∫∫∫", ofText 0x222F "∮∮ ∮∮∮",
    ofText 0x2469 "10 11 12 13 14 15 16 17 18 19 20 (1) (2) (3) (4) (5) (6) (7) (8) (9) (10) (11)",
    ofText 0x247F "(12) (13) (14) (15) (16) (17) (18) (19) (20)",
    ofText 0x249C "(a) (b) (c) (d) (e) (f) (g) (h) (i) (j) (k) (l) (m) (n) (o) (p) (q) (r) (s) (t)",
    ofText 0x24B0 "(u) (v) (w) (x) (y) (z)", ofText 0x24EA "0", ofText 0x2A0C "∫∫∫∫",
    ofText 0x2A74 "::= == ===", ofText 0x2C60 "ⱡ", ofText 0x2C62 "ɫ ᵽ ɽ", ofText 0x2C6D "ɑ ɱ ɐ ɒ",
    ofText 0x2C72 "ⱳ", ofText 0x2C75 "ⱶ", ofText 0x2C7C "j v ȿ ɀ", ofText 0x2CEB "ⳬ",
    ofText 0x2CED "ⳮ", ofText 0x2CF2 "ⳳ", ofText 0x2D6F "ⵡ", ofText 0x2E9F "母", ofText 0x2EF3 "龟",
    ofText 0x2F00 "一 丨 丶 丿 乙 亅 二 亠 人 儿 入 八 冂 冖 冫 几 凵 刀 力 勹 匕 匚 匸 十 卜 卩 厂 厶 又 口 囗 土 士 夂 夊 夕 大 女 子 宀",
    ofText 0x2F28 "寸 小 尢 尸 屮 山 巛 工 己 巾 干 幺 广 廴 廾 弋 弓 彐 彡 彳 心 戈 戶 手 支 攴 文 斗 斤 方 无 日 曰 月 木 欠 止 歹 殳 毋",
    ofText 0x2F50 "比 毛 氏 气 水 火 爪 父 爻 爿 片 牙 牛 犬 玄 玉 瓜 瓦 甘 生 用 田 疋 疒 癶 白 皮 皿 目 矛 矢 石 示 禸 禾 穴 立 竹 米 糸",
    ofText 0x2F78 "缶 网 羊 羽 老 而 耒 耳 聿 肉 臣 自 至 臼 舌 舛 舟 艮 色 艸 虍 虫 血 行 衣 襾 見 角 言 谷 豆 豕 豸 貝 赤 走 足 身 車 辛",
    ofText 0x2FA0 "辰 辵 邑 酉 釆 里 金 長 門 阜 隶 隹 雨 靑 非 面 革 韋 韭 音 頁 風 飛 食 首 香 馬 骨 高 髟 鬥 鬯 鬲 鬼 魚 鳥 鹵 鹿 麥 麻",
    ofText 0x2FC8 "黃 黍 黑 黹 黽 鼎 鼓 鼠 鼻 齊 齒 龍 龜 龠", ofText 0x3002 ".", ofText 0x3036 "〒",
    ofText 0x3038 "十 卄 卅", ofText 0x309F "より", ofText 0x30FF "コト",
    ofText 0x3131 "ᄀ ᄁ \u11AA ᄂ \u11AC \u11AD", ofText 0x3140 "ᄚ", ofText 0x3144 "ᄡ",
    ofText 0x3165 "ᄔ ᄕ \u11C7 \u11C8 \u11CC \u11CE \u11D3 \u11D7 \u11D9 ᄜ \u11DD \u11DF ᄝ ᄞ ᄠ ᄢ ᄣ",
    ofText 0x3176 "ᄧ ᄩ", ofText 0x317D "ᄲ ᄶ ᅀ ᅇ ᅌ \u11F1 \u11F2",
    ofText 0x3187 "\u1184 \u1185 \u1188 \u1191 \u1192 \u1194 \u119E \u11A1",
    ofText 0x3192 "一 二 三 四 上 中 下 甲 乙 丙 丁 天 地 人", ofText 0x3200 "(ᄀ) (ᄂ) (ᄃ) (ᄅ) (ᄆ) (ᄇ) (ᄉ) (ᄋ)",
    ofText 0x3208 "(ᄌ) (ᄎ) (ᄏ) (ᄐ) (ᄑ) (ᄒ) (가) (나) (다) (라) (마) (바) (사) (아) (자) (차) (카) (타) (파) (하)",
    ofText 0x321C "(주) (오전) (오후)", ofText 0x3220 "(一) (二) (三) (四) (五) (六) (七) (八) (九) (十) (月) (火)",
    ofText 0x322C "(水) (木) (金) (土) (日) (株) (有) (社) (名) (特) (財) (祝) (労) (代) (呼) (学) (監) (企) (資) (協)",
    ofText 0x3240 "(祭) (休) (自) (至) 問 幼 文 箏", ofText 0x3250 "pte 21 22 23 24 25 26 27 28 29 30 31",
    ofText 0x325C "32 33 34 35 ᄀ ᄂ ᄃ", ofText 0x3266 "ᄉ ᄋ ᄌ", ofText 0x326E "가 나 다 라 마 바 사 아 자 차 카",
    ofText 0x3279 "타 파 하 참고 주의 우", ofText 0x3280 "一 二 三 四 五 六 七 八 九 十 月 火 水 木 金 土 日 株 有 社 名 特 財 祝",
    ofText 0x3298 "労 秘 男 女 適 優 印 注 項 休 写 正 上 中 下 左 右 医 宗 学 監 企 資 協 夜 36 37 38 39 40 41 42 43 44 45",
    ofText 0x32BB "46 47 48 49 50 1月 2月 3月 4月 5月 6月 7月 8月 9月 10月 11月 12月 hg erg ev ltd ア イ ウ エ オ カ",
    ofText 0x32D6 "キ ク ケ コ サ シ ス セ ソ タ チ ツ テ ト", ofText 0x32EA "ヒ フ ヘ ホ", ofText 0x32F3 "ヤ ユ",
    ofText 0x32FF "令和 アパート アルファ アンペア アール イニング インチ ウォン エスクード エーカー オンス オーム カイリ カラット カロリー ガロン ガンマ ギガ",
    ofText 0x3311 "ギニー キュリー ギルダー キロ キログラム キロメートル キロワット グラム グラムトン クルゼイロ クローネ ケース コルナ コーポ サイクル サンチーム",
    ofText 0x3321 "シリング センチ セント ダース デシ ドル トン ナノ ノット ハイツ パーセント パーツ バーレル ピアストル ピクル ピコ ビル ファラッド フィート",
    ofText 0x3334 "ブッシェル フラン ヘクタール ペソ ペニヒ ヘルツ ペンス ページ ベータ ポイント ボルト ホン ポンド ホール ホーン マイクロ マイル マッハ マルク",
    ofText 0x3347 "マンション ミクロン ミリ ミリバール メガ メガトン メートル ヤード ヤール ユアン リットル リラ ルピー ルーブル レム レントゲン ワット 0点",
    ofText 0x3359 "1点 2点 3点 4点 5点 6点 7点 8点 9点 10点 11点 12点 13点 14点 15点 16点 17点 18点 19点 20点 21点 22点",
    ofText 0x336F "23点 24点 hpa da au bar ov pc dm dm2 dm3 iu 平成 昭和 大正 明治 株式会社 pa na μa ma ka kb mb",
    ofText 0x3387 "gb cal kcal pf nf μf μg mg kg hz khz mhz ghz thz μl ml dl kl fm nm μm mm cm km",
    ofText 0x339F "mm2 cm2 m2 km2 mm3 cm3 m3 km3 m∕s m∕s2 pa kpa mpa gpa rad rad∕s rad∕s2 ps ns μs",
    ofText 0x33B3 "ms pv nv μv mv kv mv pw nw μw mw kw mw kω mω", ofText 0x33C3 "bq cc cd c∕kg",
    ofText 0x33C8 "db gy ha hp in kk km kt lm ln log lx mb mil mol ph",
    ofText 0x33D9 "ppm pr sr sv wb v∕m a∕m 1日 2日 3日 4日 5日 6日 7日 8日 9日 10日 11日 12日 13日 14日 15日 16日",
    ofText 0x33F0 "17日 18日 19日 20日 21日 22日 23日 24日 25日 26日 27日 28日 29日 30日 31日 gal",
    ofText 0xA69C "ъ ь", ofText 0xA770 "ꝯ", ofText 0xA779 "ꝺ", ofText 0xA77B "ꝼ", ofText 0xA77D "ᵹ",
    ofText 0xA78B "ꞌ", ofText 0xA78D "ɥ", ofText 0xA790 "ꞑ", ofText 0xA792 "ꞓ",
    ofText 0xA7AA "ɦ ɜ ɡ ɬ ɪ", ofText 0xA7B0 "ʞ ʇ ʝ ꭓ", ofText 0xA7C4 "ꞔ ʂ ᶎ ꟈ", ofText 0xA7C9 "ꟊ",
    ofText 0xA7CB "ɤ", ofText 0xA7DC "ƛ", ofText 0xA7F1 "s c f q ꟶ", ofText 0xA7F8 "ħ œ",
    ofText 0xAB5C "ꜧ ꬷ ɫ ꭒ", ofText 0xAB69 "ʍ", ofText 0xFB00 "ff fi fl ffi ffl st st",
    ofText 0xFB13 "մն մե մի վն մխ", ofText 0xFB20 "\u05E2 \u05D0 \u05D3 \u05D4",
    ofText 0xFB27 "\u05E8 \u05EA +",
    ofText 0xFB4F "\u05D0\u05DC \u0671 \u0671 \u067B \u067B \u067B \u067B \u067E \u067E \u067E",
    ofText 0xFB59 "\u067E \u0680 \u0680 \u0680 \u0680 \u067A \u067A \u067A \u067A \u067F \u067F",
    ofText 0xFB64 "\u067F \u067F \u0679 \u0679 \u0679 \u0679 \u06A4 \u06A4 \u06A4 \u06A4 \u06A6",
    ofText 0xFB6F "\u06A6 \u06A6 \u06A6 \u0684 \u0684 \u0684 \u0684 \u0683 \u0683 \u0683 \u0683",
    ofText 0xFB7A "\u0686 \u0686 \u0686 \u0686 \u0687 \u0687 \u0687 \u0687 \u068D \u068D \u068C",
    ofText 0xFB85 "\u068C \u068E \u068E \u0688 \u0688 \u0698 \u0698 \u0691 \u0691 \u06A9 \u06A9",
    ofText 0xFB90 "\u06A9 \u06A9 \u06AF \u06AF \u06AF \u06AF \u06B3 \u06B3 \u06B3 \u06B3 \u06B1",
    ofText 0xFB9B "\u06B1 \u06B1 \u06B1 \u06BA \u06BA \u06BB \u06BB \u06BB \u06BB \u06C0 \u06C0",
    ofText 0xFBA6 "\u06C1 \u06C1 \u06C1 \u06C1 \u06BE \u06BE \u06BE \u06BE \u06D2 \u06D2 \u06D3",
    ofText 0xFBB1 "\u06D3", ofText 0xFBD3 "\u06AD \u06AD \u06AD \u06AD \u06C7 \u06C7 \u06C6 \u06C6",
    ofText 0xFBDB "\u06C8 \u06C8 \u06C7\u0674 \u06CB \u06CB \u06C5 \u06C5 \u06C9 \u06C9 \u06D0",
    ofText 0xFBE5 "\u06D0 \u06D0 \u06D0 \u0649 \u0649 \u0626\u0627 \u0626\u0627 \u0626\u06D5",
    ofText 0xFBED "\u0626\u06D5 \u0626\u0648 \u0626\u0648 \u0626\u06C7 \u0626\u06C7 \u0626\u06C6",
    ofText 0xFBF3 "\u0626\u06C6 \u0626\u06C8 \u0626\u06C8 \u0626\u06D0 \u0626\u06D0 \u0626\u06D0",
    ofText 0xFBF9 "\u0626\u0649 \u0626\u0649 \u0626\u0649 \u06CC \u06CC \u06CC \u06CC \u0626\u062C",
    ofText 0xFC01 "\u0626\u062D \u0626\u0645 \u0626\u0649 \u0626\u064A \u0628\u062C \u0628\u062D",
    ofText 0xFC07 "\u0628\u062E \u0628\u0645 \u0628\u0649 \u0628\u064A \u062A\u062C \u062A\u062D",
    ofText 0xFC0D "\u062A\u062E \u062A\u0645 \u062A\u0649 \u062A\u064A \u062B\u062C \u062B\u0645",
    ofText 0xFC13 "\u062B\u0649 \u062B\u064A \u062C\u062D \u062C\u0645 \u062D\u062C \u062D\u0645",
    ofText 0xFC19 "\u062E\u062C \u062E\u062D \u062E\u0645 \u0633\u062C \u0633\u062D \u0633\u062E",
    ofText 0xFC1F "\u0633\u0645 \u0635\u062D \u0635\u0645 \u0636\u062C \u0636\u062D \u0636\u062E",
    ofText 0xFC25 "\u0636\u0645 \u0637\u062D \u0637\u0645 \u0638\u0645 \u0639\u062C \u0639\u0645",
    ofText 0xFC2B "\u063A\u062C \u063A\u0645 \u0641\u062C \u0641\u062D \u0641\u062E \u0641\u0645",
    ofText 0xFC31 "\u0641\u0649 \u0641\u064A \u0642\u062D \u0642\u0645 \u0642\u0649 \u0642\u064A",
    ofText 0xFC37 "\u0643\u0627 \u0643\u062C \u0643\u062D \u0643\u062E \u0643\u0644 \u0643\u0645",
    ofText 0xFC3D "\u0643\u0649 \u0643\u064A \u0644\u062C \u0644\u062D \u0644\u062E \u0644\u0645",
    ofText 0xFC43 "\u0644\u0649 \u0644\u064A \u0645\u062C \u0645\u062D \u0645\u062E \u0645\u0645",
    ofText 0xFC49 "\u0645\u0649 \u0645\u064A \u0646\u062C \u0646\u062D \u0646\u062E \u0646\u0645",
    ofText 0xFC4F "\u0646\u0649 \u0646\u064A \u0647\u062C \u0647\u0645 \u0647\u0649 \u0647\u064A",
    ofText 0xFC55 "\u064A\u062C \u064A\u062D \u064A\u062E \u064A\u0645 \u064A\u0649 \u064A\u064A",
    ofText 0xFC5B "\u0630\u0670 \u0631\u0670 \u0649\u0670",
    ofText 0xFC64 "\u0626\u0631 \u0626\u0632 \u0626\u0645 \u0626\u0646 \u0626\u0649 \u0626\u064A",
    ofText 0xFC6A "\u0628\u0631 \u0628\u0632 \u0628\u0645 \u0628\u0646 \u0628\u0649 \u0628\u064A",
    ofText 0xFC70 "\u062A\u0631 \u062A\u0632 \u062A\u0645 \u062A\u0646 \u062A\u0649 \u062A\u064A",
    ofText 0xFC76 "\u062B\u0631 \u062B\u0632 \u062B\u0645 \u062B\u0646 \u062B\u0649 \u062B\u064A",
    ofText 0xFC7C "\u0641\u0649 \u0641\u064A \u0642\u0649 \u0642\u064A \u0643\u0627 \u0643\u0644",
    ofText 0xFC82 "\u0643\u0645 \u0643\u0649 \u0643\u064A \u0644\u0645 \u0644\u0649 \u0644\u064A",
    ofText 0xFC88 "\u0645\u0627 \u0645\u0645 \u0646\u0631 \u0646\u0632 \u0646\u0645 \u0646\u0646",
    ofText 0xFC8E "\u0646\u0649 \u0646\u064A \u0649\u0670 \u064A\u0631 \u064A\u0632 \u064A\u0645",
    ofText 0xFC94 "\u064A\u0646 \u064A\u0649 \u064A\u064A \u0626\u062C \u0626\u062D \u0626\u062E",
    ofText 0xFC9A "\u0626\u0645 \u0626\u0647 \u0628\u062C \u0628\u062D \u0628\u062E \u0628\u0645",
    ofText 0xFCA0 "\u0628\u0647 \u062A\u062C \u062A\u062D \u062A\u062E \u062A\u0645 \u062A\u0647",
    ofText 0xFCA6 "\u062B\u0645 \u062C\u062D \u062C\u0645 \u062D\u062C \u062D\u0645 \u062E\u062C",
    ofText 0xFCAC "\u062E\u0645 \u0633\u062C \u0633\u062D \u0633\u062E \u0633\u0645 \u0635\u062D",
    ofText 0xFCB2 "\u0635\u062E \u0635\u0645 \u0636\u062C \u0636\u062D \u0636\u062E \u0636\u0645",
    ofText 0xFCB8 "\u0637\u062D \u0638\u0645 \u0639\u062C \u0639\u0645 \u063A\u062C \u063A\u0645",
    ofText 0xFCBE "\u0641\u062C \u0641\u062D \u0641\u062E \u0641\u0645 \u0642\u062D \u0642\u0645",
    ofText 0xFCC4 "\u0643\u062C \u0643\u062D \u0643\u062E \u0643\u0644 \u0643\u0645 \u0644\u062C",
    ofText 0xFCCA "\u0644\u062D \u0644\u062E \u0644\u0645 \u0644\u0647 \u0645\u062C \u0645\u062D",
    ofText 0xFCD0 "\u0645\u062E \u0645\u0645 \u0646\u062C \u0646\u062D \u0646\u062E \u0646\u0645",
    ofText 0xFCD6 "\u0646\u0647 \u0647\u062C \u0647\u0645 \u0647\u0670 \u064A\u062C \u064A\u062D",
    ofText 0xFCDC "\u064A\u062E \u064A\u0645 \u064A\u0647 \u0626\u0645 \u0626\u0647 \u0628\u0645",
    ofText 0xFCE2 "\u0628\u0647 \u062A\u0645 \u062A\u0647 \u062B\u0645 \u062B\u0647 \u0633\u0645",
    ofText 0xFCE8 "\u0633\u0647 \u0634\u0645 \u0634\u0647 \u0643\u0644 \u0643\u0645 \u0644\u0645",
    ofText 0xFCEE "\u0646\u0645 \u0646\u0647 \u064A\u0645 \u064A\u0647 \u0640\u064E\u0651",
    ofText 0xFCF3 "\u0640\u064F\u0651 \u0640\u0650\u0651 \u0637\u0649 \u0637\u064A \u0639\u0649",
    ofText 0xFCF8 "\u0639\u064A \u063A\u0649 \u063A\u064A \u0633\u0649 \u0633\u064A \u0634\u0649",
    ofText 0xFCFE "\u0634\u064A \u062D\u0649 \u062D\u064A \u062C\u0649 \u062C\u064A \u062E\u0649",
    ofText 0xFD04 "\u062E\u064A \u0635\u0649 \u0635\u064A \u0636\u0649 \u0636\u064A \u0634\u062C",
    ofText 0xFD0A "\u0634\u062D \u0634\u062E \u0634\u0645 \u0634\u0631 \u0633\u0631 \u0635\u0631",
    ofText 0xFD10 "\u0636\u0631 \u0637\u0649 \u0637\u064A \u0639\u0649 \u0639\u064A \u063A\u0649",
    ofText 0xFD16 "\u063A\u064A \u0633\u0649 \u0633\u064A \u0634\u0649 \u0634\u064A \u062D\u0649",
    ofText 0xFD1C "\u062D\u064A \u062C\u0649 \u062C\u064A \u062E\u0649 \u062E\u064A \u0635\u0649",
    ofText 0xFD22 "\u0635\u064A \u0636\u0649 \u0636\u064A \u0634\u062C \u0634\u062D \u0634\u062E",
    ofText 0xFD28 "\u0634\u0645 \u0634\u0631 \u0633\u0631 \u0635\u0631 \u0636\u0631 \u0634\u062C",
    ofText 0xFD2E "\u0634\u062D \u0634\u062E \u0634\u0645 \u0633\u0647 \u0634\u0647 \u0637\u0645",
    ofText 0xFD34 "\u0633\u062C \u0633\u062D \u0633\u062E \u0634\u062C \u0634\u062D \u0634\u062E",
    ofText 0xFD3A "\u0637\u0645 \u0638\u0645 \u0627\u064B \u0627\u064B",
    ofText 0xFD50 "\u062A\u062C\u0645 \u062A\u062D\u062C \u062A\u062D\u062C \u062A\u062D\u0645",
    ofText 0xFD54 "\u062A\u062E\u0645 \u062A\u0645\u062C \u062A\u0645\u062D \u062A\u0645\u062E",
    ofText 0xFD58 "\u062C\u0645\u062D \u062C\u0645\u062D \u062D\u0645\u064A \u062D\u0645\u0649",
    ofText 0xFD5C "\u0633\u062D\u062C \u0633\u062C\u062D \u0633\u062C\u0649 \u0633\u0645\u062D",
    ofText 0xFD60 "\u0633\u0645\u062D \u0633\u0645\u062C \u0633\u0645\u0645 \u0633\u0645\u0645",
    ofText 0xFD64 "\u0635\u062D\u062D \u0635\u062D\u062D \u0635\u0645\u0645 \u0634\u062D\u0645",
    ofText 0xFD68 "\u0634\u062D\u0645 \u0634\u062C\u064A \u0634\u0645\u062E \u0634\u0645\u062E",
    ofText 0xFD6C "\u0634\u0645\u0645 \u0634\u0645\u0645 \u0636\u062D\u0649 \u0636\u062E\u0645",
    ofText 0xFD70 "\u0636\u062E\u0645 \u0637\u0645\u062D \u0637\u0645\u062D \u0637\u0645\u0645",
    ofText 0xFD74 "\u0637\u0645\u064A \u0639\u062C\u0645 \u0639\u0645\u0645 \u0639\u0645\u0645",
    ofText 0xFD78 "\u0639\u0645\u0649 \u063A\u0645\u0645 \u063A\u0645\u064A \u063A\u0645\u0649",
    ofText 0xFD7C "\u0641\u062E\u0645 \u0641\u062E\u0645 \u0642\u0645\u062D \u0642\u0645\u0645",
    ofText 0xFD80 "\u0644\u062D\u0645 \u0644\u062D\u064A \u0644\u062D\u0649 \u0644\u062C\u062C",
    ofText 0xFD84 "\u0644\u062C\u062C \u0644\u062E\u0645 \u0644\u062E\u0645 \u0644\u0645\u062D",
    ofText 0xFD88 "\u0644\u0645\u062D \u0645\u062D\u062C \u0645\u062D\u0645 \u0645\u062D\u064A",
    ofText 0xFD8C "\u0645\u062C\u062D \u0645\u062C\u0645 \u0645\u062E\u062C \u0645\u062E\u0645",
    ofText 0xFD92 "\u0645\u062C\u062E \u0647\u0645\u062C \u0647\u0645\u0645 \u0646\u062D\u0645",
    ofText 0xFD96 "\u0646\u062D\u0649 \u0646\u062C\u0645 \u0646\u062C\u0645 \u0646\u062C\u0649",
    ofText 0xFD9A "\u0646\u0645\u064A \u0646\u0645\u0649 \u064A\u0645\u0645 \u064A\u0645\u0645",
    ofText 0xFD9E "\u0628\u062E\u064A \u062A\u062C\u064A \u062A\u062C\u0649 \u062A\u062E\u064A",
    ofText 0xFDA2 "\u062A\u062E\u0649 \u062A\u0645\u064A \u062A\u0645\u0649 \u062C\u0645\u064A",
    ofText 0xFDA6 "\u062C\u062D\u0649 \u062C\u0645\u0649 \u0633\u062E\u0649 \u0635\u062D\u064A",
    ofText 0xFDAA "\u0634\u062D\u064A \u0636\u062D\u064A \u0644\u062C\u064A \u0644\u0645\u064A",
    ofText 0xFDAE "\u064A\u062D\u064A \u064A\u062C\u064A \u064A\u0645\u064A \u0645\u0645\u064A",
    ofText 0xFDB2 "\u0642\u0645\u064A \u0646\u062D\u064A \u0642\u0645\u062D \u0644\u062D\u0645",
    ofText 0xFDB6 "\u0639\u0645\u064A \u0643\u0645\u064A \u0646\u062C\u062D \u0645\u062E\u064A",
    ofText 0xFDBA "\u0644\u062C\u0645 \u0643\u0645\u0645 \u0644\u062C\u0645 \u0646\u062C\u062D",
    ofText 0xFDBE "\u062C\u062D\u064A \u062D\u062C\u064A \u0645\u062C\u064A \u0641\u0645\u064A",
    ofText 0xFDC2 "\u0628\u062D\u064A \u0643\u0645\u0645 \u0639\u062C\u0645 \u0635\u0645\u0645",
    ofText 0xFDC6 "\u0633\u062E\u064A \u0646\u062C\u064A",
    ofText 0xFDF0 "\u0635\u0644\u06D2 \u0642\u0644\u06D2 \u0627\u0644\u0644\u0647",
    ofText 0xFDF3 "\u0627\u0643\u0628\u0631 \u0645\u062D\u0645\u062F \u0635\u0644\u0639\u0645",
    ofText 0xFDF6 "\u0631\u0633\u0648\u0644 \u0639\u0644\u064A\u0647 \u0648\u0633\u0644\u0645",
    ofText 0xFDF9 "\u0635\u0644\u0649", ofText 0xFDFC "\u0631\u06CC\u0627\u0644",
    ofText 0xFE10 ", 、", ofText 0xFE13 ": ; ! ? 〖 〗", ofText 0xFE31 "— – _ _ ( ) \x7b \x7d 〔 〕 【 】",
    ofText 0xFE3D "《 》 〈 〉", ofText 0xFE47 "[ ]", ofText 0xFE4D "_ _ _ , 、",
    ofText 0xFE54 "; : ? ! — ( ) \x7b \x7d 〔 〕 # & * + - < > =", ofText 0xFE68 "\\ $ % @",
    ofText 0xFE71 "\u0640\u064B", ofText 0xFE77 "\u0640\u064E", ofText 0xFE79 "\u0640\u064F",
    ofText 0xFE7B "\u0640\u0650", ofText 0xFE7D "\u0640\u0651",
    ofText 0xFE7F "\u0640\u0652 \u0621 \u0622 \u0622 \u0623 \u0623 \u0624 \u0624 \u0625 \u0625",
    ofText 0xFE89 "\u0626 \u0626 \u0626 \u0626 \u0627 \u0627 \u0628 \u0628 \u0628 \u0628 \u0629",
    ofText 0xFE94 "\u0629 \u062A \u062A \u062A \u062A \u062B \u062B \u062B \u062B \u062C \u062C",
    ofText 0xFE9F "\u062C \u062C \u062D \u062D \u062D \u062D \u062E \u062E \u062E \u062E \u062F",
    ofText 0xFEAA "\u062F \u0630 \u0630 \u0631 \u0631 \u0632 \u0632 \u0633 \u0633 \u0633 \u0633",
    ofText 0xFEB5 "\u0634 \u0634 \u0634 \u0634 \u0635 \u0635 \u0635 \u0635 \u0636 \u0636 \u0636",
    ofText 0xFEC0 "\u0636 \u0637 \u0637 \u0637 \u0637 \u0638 \u0638 \u0638 \u0638 \u0639 \u0639",
    ofText 0xFECB "\u0639 \u0639 \u063A \u063A \u063A \u063A \u0641 \u0641 \u0641 \u0641 \u0642",
    ofText 0xFED6 "\u0642 \u0642 \u0642 \u0643 \u0643 \u0643 \u0643 \u0644 \u0644 \u0644 \u0644",
    ofText 0xFEE1 "\u0645 \u0645 \u0645 \u0645 \u0646 \u0646 \u0646 \u0646 \u0647 \u0647 \u0647",
    ofText 0xFEEC "\u0647 \u0648 \u0648 \u0649 \u0649 \u064A \u064A \u064A \u064A \u0644\u0622",
    ofText 0xFEF6 "\u0644\u0622 \u0644\u0623 \u0644\u0623 \u0644\u0625 \u0644\u0625 \u0644\u0627",
    ofText 0xFEFC "\u0644\u0627", ofText 0xFF5F "⦅ ⦆ . 「 」 、 ・ ヲ ァ ィ ゥ ェ ォ ャ ュ ョ ッ ー ア イ ウ エ オ カ キ",
    ofText 0xFF78 "ク ケ コ サ シ ス セ ソ タ チ ツ テ ト", ofText 0xFF8B "ヒ フ ヘ ホ", ofText 0xFF94 "ヤ ユ",
    ofText 0xFF9C "ワ ン \u3099 \u309A", ofText 0xFFA1 "ᄀ ᄁ \u11AA ᄂ \u11AC \u11AD",
    ofText 0xFFB0 "ᄚ", ofText 0xFFB4 "ᄡ", ofText 0xFFE0 "¢ £ ¬", ofText 0xFFE4 "¦ ¥ ₩",
    ofText 0xFFE8 "│", ofText 0xFFED "■ ○", ofText 0x10594 "𐖻 𐖼", ofText 0x10781 "ː ˑ æ ʙ ɓ",
    ofText 0x10787 "ʣ ꭦ ʥ ʤ ɖ ɗ ᶑ ɘ ɞ ʩ ɤ ɢ ɠ ʛ ħ ʜ ɧ ʄ ʪ ʫ ɬ 𝼄 ꞎ ɮ 𝼅 ʎ 𝼆 ø ɶ ɷ q ɺ 𝼈 ɽ ɾ ʀ ʨ ʦ ꭧ",
    ofText 0x107AE "ʧ ʈ ⱱ", ofText 0x107B2 "ʏ ʡ ʢ ʘ", ofText 0x107B9 "𝼊 𝼞", ofText 0x1D49C "a",
    ofText 0x1D49E "c d", ofText 0x1D4A2 "g", ofText 0x1D4A5 "j k", ofText 0x1D4BB "f",
    ofText 0x1D504 "a b", ofText 0x1D538 "a b", ofText 0x1D546 "o", ofText 0x1D6A4 "ı ȷ",
    ofText 0x1D6B9 "θ", ofText 0x1D6C1 "∇", ofText 0x1D6D3 "σ", ofText 0x1D6DB "∂ ε θ κ φ ρ π",
    ofText 0x1D6F3 "θ", ofText 0x1D6FB "∇", ofText 0x1D70D "σ", ofText 0x1D715 "∂ ε θ κ φ ρ π",
    ofText 0x1D72D "θ", ofText 0x1D735 "∇", ofText 0x1D747 "σ", ofText 0x1D74F "∂ ε θ κ φ ρ π",
    ofText 0x1D767 "θ", ofText 0x1D76F "∇", ofText 0x1D781 "σ", ofText 0x1D789 "∂ ε θ κ φ ρ π",
    ofText 0x1D7A1 "θ", ofText 0x1D7A9 "∇", ofText 0x1D7BB "σ", ofText 0x1D7C3 "∂ ε θ κ φ ρ π ϝ ϝ",
    ofText 0x1E047 "ы э ю ꚉ ә і ј ө ү ӏ", ofText 0x1E05A "к л о п с",
    ofText 0x1E065 "ъ ы ґ і ѕ џ ҫ ꙑ ұ", ofText 0x1EE00 "\u0627 \u0628 \u062C \u062F",
    ofText 0x1EE05 "\u0648 \u0632 \u062D \u0637 \u064A",
    ofText 0x1EE0E "\u0633 \u0639 \u0641 \u0635 \u0642 \u0631 \u0634 \u062A \u062B \u062E \u0630",
    ofText 0x1EE19 "\u0636 \u0638 \u063A \u066E \u06BA \u06A1 \u066F",
    ofText 0x1EE21 "\u0628 \u062C", ofText 0x1EE24 "\u0647", ofText 0x1EE27 "\u062D",
    ofText 0x1EE29 "\u064A", ofText 0x1EE2E "\u0633 \u0639 \u0641 \u0635 \u0642",
    ofText 0x1EE34 "\u0634 \u062A \u062B \u062E", ofText 0x1EE39 "\u0636", ofText 0x1EE3B "\u063A",
    ofText 0x1EE42 "\u062C", ofText 0x1EE47 "\u062D", ofText 0x1EE49 "\u064A",
    ofText 0x1EE4B "\u0644", ofText 0x1EE4D "\u0646 \u0633 \u0639", ofText 0x1EE51 "\u0635 \u0642",
    ofText 0x1EE54 "\u0634", ofText 0x1EE57 "\u062E", ofText 0x1EE59 "\u0636",
    ofText 0x1EE5B "\u063A", ofText 0x1EE5D "\u06BA", ofText 0x1EE5F "\u066F",
    ofText 0x1EE61 "\u0628 \u062C", ofText 0x1EE64 "\u0647",
    ofText 0x1EE67 "\u062D \u0637 \u064A \u0643",
    ofText 0x1EE6C "\u0645 \u0646 \u0633 \u0639 \u0641 \u0635 \u0642",
    ofText 0x1EE74 "\u0634 \u062A \u062B \u062E", ofText 0x1EE79 "\u0636 \u0638 \u063A \u066E",
    ofText 0x1EE7E "\u06A1",
    ofText 0x1EE80 "\u0627 \u0628 \u062C \u062F \u0647 \u0648 \u0632 \u062D \u0637 \u064A",
    ofText 0x1EE8E "\u0633 \u0639 \u0641 \u0635 \u0642 \u0631 \u0634 \u062A \u062B \u062E \u0630",
    ofText 0x1EE99 "\u0636 \u0638 \u063A", ofText 0x1EEA1 "\u0628 \u062C \u062F",
    ofText 0x1EEA5 "\u0648 \u0632 \u062D \u0637 \u064A",
    ofText 0x1EEAE "\u0633 \u0639 \u0641 \u0635 \u0642 \u0631 \u0634 \u062A \u062B \u062E \u0630",
    ofText 0x1EEB9 "\u0636 \u0638 \u063A", ofText 0x1F101 "0, 1, 2, 3, 4, 5, 6, 7, 8, 9,",
    ofText 0x1F110 "(a) (b) (c) (d) (e) (f) (g) (h) (i) (j) (k) (l) (m) (n) (o) (p) (q) (r) (s)",
    ofText 0x1F123 "(t) (u) (v) (w) (x) (y) (z) 〔s〕 c r cd wz", ofText 0x1F14A "hv mv sd ss ppv wc",
    ofText 0x1F16A "mc md mr", ofText 0x1F190 "dj", ofText 0x1F200 "ほか ココ サ",
    ofText 0x1F210 "手 字 双 デ 二 多 解 天 交 映 無 料 前 後 再 新 初 終 生 販 声 吹 演 投 捕 一 三 遊 左 中 右 指 走 打 禁 空 合 満 有",
    ofText 0x1F237 "月 申 割 営 配", ofText 0x1F240 "〔本〕 〔三〕 〔二〕 〔安〕 〔点〕 〔打〕 〔盗〕 〔勝〕 〔敗〕",
    ofText 0x1F250 "得 可"]

end SupplyCatalog.Url
