import SyntaxBridge.Text.Blank

/-!
# Compatible decompositions

Many characters are variants of others: letters with a mark, ligatures, letters of a certain width
or font. Such a character decomposes into the plain characters and marks that it stands for. The
table covers the characters that may stand in an identifier, apart from the Hangul syllables, which
are made of their parts by a rule.
-/

namespace SyntaxBridge.Text

/-- The characters that decompose, as runs of neighbours: the first of a run, and the decompositions
of all of them, each after a space. -/
def decompositionRuns : List (Nat × String) :=
  [(0xaa, "a"), (0xb5, "μ"), (0xba, "o"), (0xc0, "À Á Â Ã Ä Å"),
    (0xc7, "Ç È É Ê Ë Ì Í Î Ï"), (0xd1, "Ñ Ò Ó Ô Õ Ö"), (0xd9, "Ù Ú Û Ü Ý"),
    (0xe0, "à á â ã ä å"), (0xe7, "ç è é ê ë ì í î ï"),
    (0xf1, "ñ ò ó ô õ ö"), (0xf9, "ù ú û ü ý"),
    (0xff, "ÿ Ā ā Ă ă Ą ą Ć ć Ĉ ĉ Ċ ċ Č č Ď ď"),
    (0x112, "Ē ē Ĕ ĕ Ė ė Ę ę Ě ě Ĝ ĝ Ğ ğ Ġ ġ Ģ ģ Ĥ ĥ"),
    (0x128, "Ĩ ĩ Ī ī Ĭ ĭ Į į İ"), (0x132, "IJ ij Ĵ ĵ Ķ ķ"),
    (0x139, "Ĺ ĺ Ļ ļ Ľ ľ L· l·"), (0x143, "Ń ń Ņ ņ Ň ň ʼn"),
    (0x14c, "Ō ō Ŏ ŏ Ő ő"),
    (0x154, "Ŕ ŕ Ŗ ŗ Ř ř Ś ś Ŝ ŝ Ş ş Š š Ţ ţ Ť ť"),
    (0x168, "Ũ ũ Ū ū Ŭ ŭ Ů ů Ű ű Ų ų Ŵ ŵ Ŷ ŷ Ÿ Ź ź Ż"), (0x17c, "ż Ž ž s"),
    (0x1a0, "Ơ ơ"), (0x1af, "Ư ư"),
    (0x1c4, "DŽ Dž dž LJ Lj lj NJ Nj nj Ǎ ǎ Ǐ ǐ Ǒ ǒ Ǔ ǔ Ǖ"),
    (0x1d6, "ǖ Ǘ ǘ Ǚ ǚ Ǜ ǜ"), (0x1de, "Ǟ ǟ Ǡ ǡ Ǣ ǣ"),
    (0x1e6, "Ǧ ǧ Ǩ ǩ Ǫ ǫ Ǭ ǭ Ǯ ǯ ǰ DZ Dz dz Ǵ ǵ"),
    (0x1f8, "Ǹ ǹ Ǻ ǻ Ǽ ǽ Ǿ ǿ Ȁ ȁ Ȃ ȃ Ȅ ȅ Ȇ ȇ Ȉ ȉ Ȋ"),
    (0x20b, "ȋ Ȍ ȍ Ȏ ȏ Ȑ ȑ Ȓ ȓ Ȕ ȕ Ȗ ȗ Ș ș Ț ț"), (0x21e, "Ȟ ȟ"),
    (0x226, "Ȧ ȧ Ȩ ȩ Ȫ ȫ Ȭ ȭ Ȯ ȯ Ȱ ȱ Ȳ ȳ"), (0x2b0, "h ɦ j r ɹ ɻ ʁ w y"),
    (0x2e0, "ɣ l s x ʕ"), (0x340, "̀ ́"), (0x343, "̓ ̈́"), (0x374, "ʹ"), (0x386, "Ά · Έ Ή Ί"),
    (0x38c, "Ό"), (0x38e, "Ύ Ώ ΐ"), (0x3aa, "Ϊ Ϋ ά έ ή ί ΰ"),
    (0x3ca, "ϊ ϋ ό ύ ώ"), (0x3d0, "β θ Υ Ύ Ϋ φ π"), (0x3f0, "κ ρ ς"), (0x3f4, "Θ ε"),
    (0x3f9, "Σ"), (0x400, "Ѐ Ё"), (0x403, "Ѓ"), (0x407, "Ї"), (0x40c, "Ќ Ѝ Ў"),
    (0x419, "Й"), (0x439, "й"), (0x450, "ѐ ё"), (0x453, "ѓ"), (0x457, "ї"),
    (0x45c, "ќ ѝ ў"), (0x476, "Ѷ ѷ"), (0x4c1, "Ӂ ӂ"), (0x4d0, "Ӑ ӑ Ӓ ӓ"),
    (0x4d6, "Ӗ ӗ"), (0x4da, "Ӛ ӛ Ӝ ӝ Ӟ ӟ"), (0x4e2, "Ӣ ӣ Ӥ ӥ Ӧ ӧ"),
    (0x4ea, "Ӫ ӫ Ӭ ӭ Ӯ ӯ Ӱ ӱ Ӳ ӳ Ӵ ӵ"), (0x4f8, "Ӹ ӹ"), (0x587, "եւ"),
    (0x622, "آ أ ؤ إ ئ"), (0x675, "اٴ وٴ ۇٴ يٴ"), (0x6c0, "ۀ"), (0x6c2, "ۂ"),
    (0x6d3, "ۓ"), (0x929, "ऩ"), (0x931, "ऱ"), (0x934, "ऴ"),
    (0x958, "क़ ख़ ग़ ज़ ड़ ढ़ फ़ य़"), (0x9cb, "ো ৌ"), (0x9dc, "ড় ঢ়"), (0x9df, "য়"),
    (0xa33, "ਲ਼"), (0xa36, "ਸ਼"), (0xa59, "ਖ਼ ਗ਼ ਜ਼"), (0xa5e, "ਫ਼"), (0xb48, "ୈ"),
    (0xb4b, "ୋ ୌ"), (0xb5c, "ଡ଼ ଢ଼"), (0xb94, "ஔ"), (0xbca, "ொ ோ ௌ"), (0xc48, "ై"),
    (0xcc0, "ೀ"), (0xcc7, "ೇ ೈ"), (0xcca, "ೊ ೋ"), (0xd4a, "ൊ ോ ൌ"), (0xdda, "ේ"),
    (0xddc, "ො ෝ ෞ"), (0xe33, "ํา"), (0xeb3, "ໍາ"), (0xedc, "ຫນ ຫມ"), (0xf43, "གྷ"),
    (0xf4d, "ཌྷ"), (0xf52, "དྷ"), (0xf57, "བྷ"), (0xf5c, "ཛྷ"), (0xf69, "ཀྵ"), (0xf73, "ཱི"),
    (0xf75, "ཱུ ྲྀ ྲཱྀ ླྀ ླཱྀ"), (0xf81, "ཱྀ"), (0xf93, "ྒྷ"), (0xf9d, "ྜྷ"), (0xfa2, "ྡྷ"),
    (0xfa7, "ྦྷ"), (0xfac, "ྫྷ"), (0xfb9, "ྐྵ"), (0x1026, "ဦ"), (0x10fc, "ნ"), (0x1b06, "ᬆ"),
    (0x1b08, "ᬈ"), (0x1b0a, "ᬊ"), (0x1b0c, "ᬌ"), (0x1b0e, "ᬎ"), (0x1b12, "ᬒ"),
    (0x1b3b, "ᬻ"), (0x1b3d, "ᬽ"), (0x1b40, "ᭀ ᭁ"), (0x1b43, "ᭃ"), (0x1d2c, "A Æ B"),
    (0x1d30, "D E Ǝ G H I J K L M N"), (0x1d3c, "O Ȣ P R T U W a ɐ ɑ ᴂ b d e ə ɛ ɜ g"),
    (0x1d4f, "k m ŋ o ɔ ᴖ ᴗ p t u ᴝ ɯ v ᴥ β γ δ φ χ i r u v β γ ρ φ χ"), (0x1d78, "н"),
    (0x1d9b, "ɒ c ɕ ð ɜ f ɟ ɡ ɥ ɨ ɩ ɪ ᵻ ʝ ɭ ᶅ ʟ ɱ ɰ ɲ ɳ ɴ ɵ ɸ ʂ ʃ ƫ ʉ ʊ ᴜ"),
    (0x1db9, "ʋ ʌ z ʐ ʑ ʒ θ"),
    (0x1e00, "Ḁ ḁ Ḃ ḃ Ḅ ḅ Ḇ ḇ Ḉ ḉ Ḋ ḋ Ḍ ḍ Ḏ ḏ Ḑ ḑ Ḓ"),
    (0x1e13, "ḓ Ḕ ḕ Ḗ ḗ Ḙ ḙ Ḛ ḛ Ḝ ḝ Ḟ ḟ Ḡ ḡ Ḣ ḣ Ḥ"),
    (0x1e25, "ḥ Ḧ ḧ Ḩ ḩ Ḫ ḫ Ḭ ḭ Ḯ ḯ Ḱ ḱ Ḳ ḳ Ḵ ḵ Ḷ ḷ"),
    (0x1e38, "Ḹ ḹ Ḻ ḻ Ḽ ḽ Ḿ ḿ Ṁ ṁ Ṃ ṃ Ṅ ṅ Ṇ ṇ Ṉ ṉ Ṋ"),
    (0x1e4b, "ṋ Ṍ ṍ Ṏ ṏ Ṑ ṑ Ṓ ṓ Ṕ ṕ Ṗ ṗ Ṙ ṙ Ṛ ṛ"),
    (0x1e5c, "Ṝ ṝ Ṟ ṟ Ṡ ṡ Ṣ ṣ Ṥ ṥ Ṧ ṧ Ṩ ṩ Ṫ ṫ Ṭ"),
    (0x1e6d, "ṭ Ṯ ṯ Ṱ ṱ Ṳ ṳ Ṵ ṵ Ṷ ṷ Ṹ ṹ Ṻ ṻ Ṽ ṽ Ṿ ṿ"),
    (0x1e80, "Ẁ ẁ Ẃ ẃ Ẅ ẅ Ẇ ẇ Ẉ ẉ Ẋ ẋ Ẍ ẍ Ẏ ẏ Ẑ ẑ Ẓ ẓ"),
    (0x1e94, "Ẕ ẕ ẖ ẗ ẘ ẙ aʾ ṡ"),
    (0x1ea0, "Ạ ạ Ả ả Ấ ấ Ầ ầ Ẩ ẩ Ẫ ẫ Ậ ậ Ắ ắ"),
    (0x1eb0, "Ằ ằ Ẳ ẳ Ẵ ẵ Ặ ặ Ẹ ẹ Ẻ ẻ Ẽ ẽ Ế ế"),
    (0x1ec0, "Ề ề Ể ể Ễ ễ Ệ ệ Ỉ ỉ Ị ị Ọ ọ Ỏ ỏ Ố"),
    (0x1ed1, "ố Ồ ồ Ổ ổ Ỗ ỗ Ộ ộ Ớ ớ Ờ ờ Ở ở"),
    (0x1ee0, "Ỡ ỡ Ợ ợ Ụ ụ Ủ ủ Ứ ứ Ừ ừ Ử ử Ữ ữ"),
    (0x1ef0, "Ự ự Ỳ ỳ Ỵ ỵ Ỷ ỷ Ỹ ỹ"),
    (0x1f00, "ἀ ἁ ἂ ἃ ἄ ἅ ἆ ἇ Ἀ Ἁ Ἂ Ἃ Ἄ Ἅ Ἆ Ἇ"),
    (0x1f10, "ἐ ἑ ἒ ἓ ἔ ἕ"), (0x1f18, "Ἐ Ἑ Ἒ Ἓ Ἔ Ἕ"),
    (0x1f20, "ἠ ἡ ἢ ἣ ἤ ἥ ἦ ἧ Ἠ Ἡ Ἢ Ἣ Ἤ Ἥ Ἦ Ἧ"),
    (0x1f30, "ἰ ἱ ἲ ἳ ἴ ἵ ἶ ἷ Ἰ Ἱ Ἲ Ἳ Ἴ Ἵ Ἶ Ἷ"),
    (0x1f40, "ὀ ὁ ὂ ὃ ὄ ὅ"), (0x1f48, "Ὀ Ὁ Ὂ Ὃ Ὄ Ὅ"),
    (0x1f50, "ὐ ὑ ὒ ὓ ὔ ὕ ὖ ὗ"), (0x1f59, "Ὑ"), (0x1f5b, "Ὓ"), (0x1f5d, "Ὕ"),
    (0x1f5f, "Ὗ ὠ ὡ ὢ ὣ ὤ ὥ ὦ ὧ Ὠ Ὡ Ὢ Ὣ Ὤ Ὥ Ὦ"),
    (0x1f6f, "Ὧ ὰ ά ὲ έ ὴ ή ὶ ί ὸ ό ὺ ύ ὼ ώ"),
    (0x1f80, "ᾀ ᾁ ᾂ ᾃ ᾄ ᾅ ᾆ ᾇ ᾈ ᾉ ᾊ ᾋ ᾌ"),
    (0x1f8d, "ᾍ ᾎ ᾏ ᾐ ᾑ ᾒ ᾓ ᾔ ᾕ ᾖ ᾗ ᾘ ᾙ"),
    (0x1f9a, "ᾚ ᾛ ᾜ ᾝ ᾞ ᾟ ᾠ ᾡ ᾢ ᾣ ᾤ ᾥ"),
    (0x1fa6, "ᾦ ᾧ ᾨ ᾩ ᾪ ᾫ ᾬ ᾭ ᾮ ᾯ ᾰ ᾱ ᾲ ᾳ"), (0x1fb4, "ᾴ"),
    (0x1fb6, "ᾶ ᾷ Ᾰ Ᾱ Ὰ Ά ᾼ"), (0x1fbe, "ι"), (0x1fc2, "ῂ ῃ ῄ"),
    (0x1fc6, "ῆ ῇ Ὲ Έ Ὴ Ή ῌ"), (0x1fd0, "ῐ ῑ ῒ ΐ"), (0x1fd6, "ῖ ῗ Ῐ Ῑ Ὶ Ί"),
    (0x1fe0, "ῠ ῡ ῢ ΰ ῤ ῥ ῦ ῧ Ῠ Ῡ Ὺ Ύ Ῥ"), (0x1ff2, "ῲ ῳ ῴ"),
    (0x1ff6, "ῶ ῷ Ὸ Ό Ὼ Ώ ῼ"), (0x2071, "i"), (0x207f, "n"),
    (0x2090, "a e o x ə h k l m n p s t"), (0x2102, "C"), (0x2107, "Ɛ"),
    (0x210a, "g H H H h ħ I I L l"), (0x2115, "N"), (0x2119, "P Q R R R"), (0x2124, "Z"),
    (0x2126, "Ω"), (0x2128, "Z"), (0x212a, "K Å B C"), (0x212f, "e E F"),
    (0x2133, "M o א ב ג ד i"), (0x213c, "π γ Γ Π"), (0x2145, "D d e i j"),
    (0x2160, "I II III IV V VI VII VIII IX X XI XII L C D M i ii iii iv v"),
    (0x2175, "vi vii viii ix x xi xii l c d m"), (0x2c7c, "j V"), (0x2d6f, "ⵡ"),
    (0x3038, "十 卄 卅"), (0x304c, "が"), (0x304e, "ぎ"), (0x3050, "ぐ"), (0x3052, "げ"),
    (0x3054, "ご"), (0x3056, "ざ"), (0x3058, "じ"), (0x305a, "ず"), (0x305c, "ぜ"),
    (0x305e, "ぞ"), (0x3060, "だ"), (0x3062, "ぢ"), (0x3065, "づ"), (0x3067, "で"),
    (0x3069, "ど"), (0x3070, "ば ぱ"), (0x3073, "び ぴ"), (0x3076, "ぶ ぷ"), (0x3079, "べ ぺ"),
    (0x307c, "ぼ ぽ"), (0x3094, "ゔ"), (0x309e, "ゞ より"), (0x30ac, "ガ"), (0x30ae, "ギ"),
    (0x30b0, "グ"), (0x30b2, "ゲ"), (0x30b4, "ゴ"), (0x30b6, "ザ"), (0x30b8, "ジ"),
    (0x30ba, "ズ"), (0x30bc, "ゼ"), (0x30be, "ゾ"), (0x30c0, "ダ"), (0x30c2, "ヂ"),
    (0x30c5, "ヅ"), (0x30c7, "デ"), (0x30c9, "ド"), (0x30d0, "バ パ"), (0x30d3, "ビ ピ"),
    (0x30d6, "ブ プ"), (0x30d9, "ベ ペ"), (0x30dc, "ボ ポ"), (0x30f4, "ヴ"),
    (0x30f7, "ヷ ヸ ヹ ヺ"), (0x30fe, "ヾ コト"),
    (0x3131, "ᄀ ᄁ ᆪ ᄂ ᆬ ᆭ ᄃ ᄄ ᄅ ᆰ ᆱ ᆲ ᆳ ᆴ ᆵ ᄚ ᄆ ᄇ ᄈ ᄡ ᄉ ᄊ ᄋ ᄌ ᄍ ᄎ ᄏ ᄐ ᄑ ᄒ"),
    (0x314f, "ᅡ ᅢ ᅣ ᅤ ᅥ ᅦ ᅧ ᅨ ᅩ ᅪ ᅫ ᅬ ᅭ ᅮ ᅯ ᅰ ᅱ ᅲ ᅳ ᅴ ᅵ ᅠ ᄔ ᄕ ᇇ ᇈ ᇌ ᇎ ᇓ ᇗ"),
    (0x316d, "ᇙ ᄜ ᇝ ᇟ ᄝ ᄞ ᄠ ᄢ ᄣ ᄧ ᄩ ᄫ ᄬ ᄭ ᄮ ᄯ ᄲ ᄶ ᅀ ᅇ ᅌ ᇱ ᇲ ᅗ ᅘ ᅙ ᆄ ᆅ ᆈ ᆑ"), (0x318b, "ᆒ ᆔ ᆞ ᆡ"),
    (0xa69c, "ъ ь"), (0xa770, "ꝯ"), (0xa7f2, "C F Q"), (0xa7f8, "Ħ œ"), (0xab5c, "ꜧ ꬷ ɫ ꭒ"),
    (0xab69, "ʍ"), (0xf900, "豈 更 車 賈 滑 串 句 龜 龜 契 金 喇 奈 懶 癩 羅 蘿 螺 裸 邏 樂 洛 烙 珞 落 酪 駱 亂 卵 欄"),
    (0xf91e, "爛 蘭 鸞 嵐 濫 藍 襤 拉 臘 蠟 廊 朗 浪 狼 郎 來 冷 勞 擄 櫓 爐 盧 老 蘆 虜 路 露 魯 鷺 碌"),
    (0xf93c, "祿 綠 菉 錄 鹿 論 壟 弄 籠 聾 牢 磊 賂 雷 壘 屢 樓 淚 漏 累 縷 陋 勒 肋 凜 凌 稜 綾 菱 陵"),
    (0xf95a, "讀 拏 樂 諾 丹 寧 怒 率 異 北 磻 便 復 不 泌 數 索 參 塞 省 葉 說 殺 辰 沈 拾 若 掠 略 亮"),
    (0xf978, "兩 凉 梁 糧 良 諒 量 勵 呂 女 廬 旅 濾 礪 閭 驪 麗 黎 力 曆 歷 轢 年 憐 戀 撚 漣 煉 璉 秊"),
    (0xf996, "練 聯 輦 蓮 連 鍊 列 劣 咽 烈 裂 說 廉 念 捻 殮 簾 獵 令 囹 寧 嶺 怜 玲 瑩 羚 聆 鈴 零 靈"),
    (0xf9b4, "領 例 禮 醴 隸 惡 了 僚 寮 尿 料 樂 燎 療 蓼 遼 龍 暈 阮 劉 杻 柳 流 溜 琉 留 硫 紐 類 六"),
    (0xf9d2, "戮 陸 倫 崙 淪 輪 律 慄 栗 率 隆 利 吏 履 易 李 梨 泥 理 痢 罹 裏 裡 里 離 匿 溺 吝 燐 璘"),
    (0xf9f0, "藺 隣 鱗 麟 林 淋 臨 立 笠 粒 狀 炙 識 什 茶 刺 切 度 拓 糖 宅 洞 暴 輻 行 降 見 廓 兀 嗀"), (0xfa10, "塚"),
    (0xfa12, "晴"), (0xfa15, "凞 猪 益 礼 神 祥 福 靖 精 羽"), (0xfa20, "蘒"), (0xfa22, "諸"), (0xfa25, "逸 都"),
    (0xfa2a, "飯 飼 館 鶴 郞 隷 侮 僧 免 勉 勤 卑 喝 嘆 器 塀 墨 層 屮 悔 慨 憎 懲 敏 既 暑 梅 海 渚 漢"),
    (0xfa48, "煮 爫 琢 碑 社 祉 祈 祐 祖 祝 禍 禎 穀 突 節 練 縉 繁 署 者 臭 艹 艹 著 褐 視 謁 謹 賓 贈"),
    (0xfa66, "辶 逸 難 響 頻 恵 𤋮 舘"),
    (0xfa70, "並 况 全 侀 充 冀 勇 勺 喝 啕 喙 嗢 塚 墳 奄 奔 婢 嬨 廒 廙 彩 徭 惘 慎 愈 憎 慠 懲 戴 揄"),
    (0xfa8e, "搜 摒 敖 晴 朗 望 杖 歹 殺 流 滛 滋 漢 瀞 煮 瞧 爵 犯 猪 瑱 甆 画 瘝 瘟 益 盛 直 睊 着 磌"),
    (0xfaac, "窱 節 类 絛 練 缾 者 荒 華 蝹 襁 覆 視 調 諸 請 謁 諾 諭 謹 變 贈 輸 遲 醙 鉶 陼 難 靖 韛"),
    (0xfaca, "響 頋 頻 鬒 龜 𢡊 𢡄 𣏕 㮝 䀘 䀹 𥉉 𥳐 𧻓 齃 龎"), (0xfb00, "ff fi fl ffi ffl st st"),
    (0xfb13, "մն մե մի վն մխ"), (0xfb1d, "יִ"), (0xfb1f, "ײַ ע א ד ה כ ל ם ר ת"),
    (0xfb2a, "שׁ שׂ שּׁ שּׂ אַ אָ אּ בּ גּ דּ הּ וּ זּ"), (0xfb38, "טּ יּ ךּ כּ לּ"),
    (0xfb3e, "מּ"), (0xfb40, "נּ סּ"), (0xfb43, "ףּ פּ"),
    (0xfb46, "צּ קּ רּ שּ תּ וֹ בֿ כֿ פֿ אל ٱ ٱ ٻ ٻ ٻ ٻ پ پ پ پ ڀ ڀ ڀ ڀ ٺ"),
    (0xfb5f, "ٺ ٺ ٺ ٿ ٿ ٿ ٿ ٹ ٹ ٹ ٹ ڤ ڤ ڤ ڤ ڦ ڦ ڦ ڦ ڄ ڄ ڄ ڄ ڃ ڃ ڃ ڃ چ چ چ"),
    (0xfb7d, "چ ڇ ڇ ڇ ڇ ڍ ڍ ڌ ڌ ڎ ڎ ڈ ڈ ژ ژ ڑ ڑ ک ک ک ک گ گ گ گ ڳ ڳ ڳ ڳ ڱ"),
    (0xfb9b, "ڱ ڱ ڱ ں ں ڻ ڻ ڻ ڻ ۀ ۀ ہ ہ ہ ہ ھ ھ ھ ھ ے ے ۓ ۓ"),
    (0xfbd3, "ڭ ڭ ڭ ڭ ۇ ۇ ۆ ۆ ۈ ۈ ۇٴ ۋ ۋ ۅ ۅ ۉ ۉ ې ې ې ې ى ى ئا ئا ئە"),
    (0xfbed, "ئە ئو ئو ئۇ ئۇ ئۆ ئۆ ئۈ ئۈ ئې ئې ئې ئى ئى ئى"),
    (0xfbfc, "ی ی ی ی ئج ئح ئم ئى ئي بج بح بخ بم بى بي تج تح تخ تم تى"),
    (0xfc10, "تي ثج ثم ثى ثي جح جم حج حم خج خح خم سج سح سخ سم صح صم ضج ضح"),
    (0xfc24, "ضخ ضم طح طم ظم عج عم غج غم فج فح فخ فم فى في قح قم قى قي كا"),
    (0xfc38, "كج كح كخ كل كم كى كي لج لح لخ لم لى لي مج مح مخ مم مى مي نج"),
    (0xfc4c, "نح نخ نم نى ني هج هم هى هي يج يح يخ يم يى يي ذٰ رٰ ىٰ"),
    (0xfc64, "ئر ئز ئم ئن ئى ئي بر بز بم بن بى بي تر تز تم تن تى تي"),
    (0xfc76, "ثر ثز ثم ثن ثى ثي فى في قى قي كا كل كم كى كي لم لى لي ما مم"),
    (0xfc8a, "نر نز نم نن نى ني ىٰ ير يز يم ين يى يي ئج ئح ئخ ئم ئه"),
    (0xfc9c, "بج بح بخ بم به تج تح تخ تم ته ثم جح جم حج حم خج خم سج سح سخ"),
    (0xfcb0, "سم صح صخ صم ضج ضح ضخ ضم طح ظم عج عم غج غم فج فح فخ فم قح قم"),
    (0xfcc4, "كج كح كخ كل كم لج لح لخ لم له مج مح مخ مم نج نح نخ نم نه هج"),
    (0xfcd8, "هم هٰ يج يح يخ يم يه ئم ئه بم به تم ته ثم ثه سم سه شم شه"),
    (0xfceb, "كل كم لم نم نه يم يه ـَّ ـُّ ـِّ طى طي عى عي غى غي سى سي شى"),
    (0xfcfe, "شي حى حي جى جي خى خي صى صي ضى ضي شج شح شخ شم شر سر صر ضر طى"),
    (0xfd12, "طي عى عي غى غي سى سي شى شي حى حي جى جي خى خي صى صي ضى ضي شج"),
    (0xfd26, "شح شخ شم شر سر صر ضر شج شح شخ شم سه شه طم سج سح سخ شج شح شخ"),
    (0xfd3a, "طم ظم اً اً"),
    (0xfd50, "تجم تحج تحج تحم تخم تمج تمح تمخ جمح جمح حمي حمى سحج سجح سجى"),
    (0xfd5f, "سمح سمح سمج سمم سمم صحح صحح صمم شحم شحم شجي شمخ شمخ شمم شمم"),
    (0xfd6e, "ضحى ضخم ضخم طمح طمح طمم طمي عجم عمم عمم عمى غمم غمي غمى فخم"),
    (0xfd7d, "فخم قمح قمم لحم لحي لحى لجج لجج لخم لخم لمح لمح محج محم محي"),
    (0xfd8c, "مجح مجم مخج مخم"),
    (0xfd92, "مجخ همج همم نحم نحى نجم نجم نجى نمي نمى يمم يمم بخي تجي تجى"),
    (0xfda1, "تخي تخى تمي تمى جمي جحى جمى سخى صحي شحي ضحي لجي لمي يحي يجي"),
    (0xfdb0, "يمي ممي قمي نحي قمح لحم عمي كمي نجح مخي لجم كمم لجم نجح جحي"),
    (0xfdbf, "حجي مجي فمي بحي كمم عجم صمم سخي نجي"),
    (0xfdf0, "صلے قلے الله اكبر محمد صلعم رسول عليه وسلم صلى"), (0xfe33, "_ _"),
    (0xfe4d, "_ _ _"), (0xfe71, "ـً"), (0xfe77, "ـَ"), (0xfe79, "ـُ"), (0xfe7b, "ـِ"),
    (0xfe7d, "ـّ"), (0xfe7f, "ـْ ء آ آ أ أ ؤ ؤ إ إ ئ ئ ئ ئ ا ا ب ب ب ب ة ة ت ت"),
    (0xfe97, "ت ت ث ث ث ث ج ج ج ج ح ح ح ح خ خ خ خ د د ذ ذ ر ر ز ز س س س س"),
    (0xfeb5, "ش ش ش ش ص ص ص ص ض ض ض ض ط ط ط ط ظ ظ ظ ظ ع ع ع ع غ غ غ غ ف ف"),
    (0xfed3, "ف ف ق ق ق ق ك ك ك ك ل ل ل ل م م م م ن ن ن ن ه ه ه ه و و ى ى"),
    (0xfef1, "ي ي ي ي لآ لآ لأ لأ لإ لإ لا لا"), (0xff10, "0 1 2 3 4 5 6 7 8 9"),
    (0xff21, "A B C D E F G H I J K L M N O P Q R S T U V W X Y Z"), (0xff3f, "_"),
    (0xff41, "a b c d e f g h i j k l m n o p q r s t u v w x y z"),
    (0xff66, "ヲ ァ ィ ゥ ェ ォ ャ ュ ョ ッ ー ア イ ウ エ オ カ キ ク ケ コ サ シ ス セ ソ タ チ ツ テ"),
    (0xff84, "ト ナ ニ ヌ ネ ノ ハ ヒ フ ヘ ホ マ ミ ム メ モ ヤ ユ ヨ ラ リ ル レ ロ ワ ン ゙ ゚ ᅠ ᄀ"),
    (0xffa2, "ᄁ ᆪ ᄂ ᆬ ᆭ ᄃ ᄄ ᄅ ᆰ ᆱ ᆲ ᆳ ᆴ ᆵ ᄚ ᄆ ᄇ ᄈ ᄡ ᄉ ᄊ ᄋ ᄌ ᄍ ᄎ ᄏ ᄐ ᄑ ᄒ"),
    (0xffc2, "ᅡ ᅢ ᅣ ᅤ ᅥ ᅦ"), (0xffca, "ᅧ ᅨ ᅩ ᅪ ᅫ ᅬ"), (0xffd2, "ᅭ ᅮ ᅯ ᅰ ᅱ ᅲ"), (0xffda, "ᅳ ᅴ ᅵ"),
    (0x10781, "ː ˑ æ ʙ ɓ"),
    (0x10787, "ʣ ꭦ ʥ ʤ ɖ ɗ ᶑ ɘ ɞ ʩ ɤ ɢ ɠ ʛ ħ ʜ ɧ ʄ ʪ ʫ ɬ 𝼄 ꞎ ɮ 𝼅 ʎ 𝼆 ø ɶ ɷ"),
    (0x107a5, "q ɺ 𝼈 ɽ ɾ ʀ ʨ ʦ ꭧ ʧ ʈ ⱱ"), (0x107b2, "ʏ ʡ ʢ ʘ ǀ ǁ ǂ 𝼊 𝼞"), (0x1109a, "𑂚"),
    (0x1109c, "𑂜"), (0x110ab, "𑂫"), (0x1112e, "𑄮 𑄯"), (0x1134b, "𑍋 𑍌"), (0x114bb, "𑒻 𑒼"),
    (0x114be, "𑒾"), (0x115ba, "𑖺 𑖻"), (0x11938, "𑤸"),
    (0x1d400, "A B C D E F G H I J K L M N O P Q R S T U V W X Y Z a b c d"),
    (0x1d41e, "e f g h i j k l m n o p q r s t u v w x y z A B C D E F G H"),
    (0x1d43c, "I J K L M N O P Q R S T U V W X Y Z a b c d e f g"),
    (0x1d456, "i j k l m n o p q r s t u v w x y z A B C D E F G H I J K L"),
    (0x1d474, "M N O P Q R S T U V W X Y Z a b c d e f g h i j k l m n o p"),
    (0x1d492, "q r s t u v w x y z A"), (0x1d49e, "C D"), (0x1d4a2, "G"), (0x1d4a5, "J K"),
    (0x1d4a9, "N O P Q"), (0x1d4ae, "S T U V W X Y Z a b c d"), (0x1d4bb, "f"),
    (0x1d4bd, "h i j k l m n"),
    (0x1d4c5, "p q r s t u v w x y z A B C D E F G H I J K L M N O P Q R S"),
    (0x1d4e3, "T U V W X Y Z a b c d e f g h i j k l m n o p q r s t u v w"),
    (0x1d501, "x y z A B"), (0x1d507, "D E F G"), (0x1d50d, "J K L M N O P Q"),
    (0x1d516, "S T U V W X Y"),
    (0x1d51e, "a b c d e f g h i j k l m n o p q r s t u v w x y z A B"), (0x1d53b, "D E F G"),
    (0x1d540, "I J K L M"), (0x1d546, "O"), (0x1d54a, "S T U V W X Y"),
    (0x1d552, "a b c d e f g h i j k l m n o p q r s t u v w x y z A B C D"),
    (0x1d570, "E F G H I J K L M N O P Q R S T U V W X Y Z a b c d e f g h"),
    (0x1d58e, "i j k l m n o p q r s t u v w x y z A B C D E F G H I J K L"),
    (0x1d5ac, "M N O P Q R S T U V W X Y Z a b c d e f g h i j k l m n o p"),
    (0x1d5ca, "q r s t u v w x y z A B C D E F G H I J K L M N O P Q R S T"),
    (0x1d5e8, "U V W X Y Z a b c d e f g h i j k l m n o p q r s t u v w x"),
    (0x1d606, "y z A B C D E F G H I J K L M N O P Q R S T U V W X Y Z a b"),
    (0x1d624, "c d e f g h i j k l m n o p q r s t u v w x y z A B C D E F"),
    (0x1d642, "G H I J K L M N O P Q R S T U V W X Y Z a b c d e f g h i j"),
    (0x1d660, "k l m n o p q r s t u v w x y z A B C D E F G H I J K L M N"),
    (0x1d67e, "O P Q R S T U V W X Y Z a b c d e f g h i j k l m n o p q r"),
    (0x1d69c, "s t u v w x y z ı ȷ"),
    (0x1d6a8, "Α Β Γ Δ Ε Ζ Η Θ Ι Κ Λ Μ Ν Ξ Ο Π Ρ Θ Σ Τ Υ Φ Χ Ψ Ω"),
    (0x1d6c2, "α β γ δ ε ζ η θ ι κ λ μ ν ξ ο π ρ ς σ τ υ φ χ ψ ω"),
    (0x1d6dc, "ε θ κ φ ρ π Α Β Γ Δ Ε Ζ Η Θ Ι Κ Λ Μ Ν Ξ Ο Π Ρ Θ Σ Τ Υ Φ Χ Ψ"), (0x1d6fa, "Ω"),
    (0x1d6fc, "α β γ δ ε ζ η θ ι κ λ μ ν ξ ο π ρ ς σ τ υ φ χ ψ ω"),
    (0x1d716, "ε θ κ φ ρ π Α Β Γ Δ Ε Ζ Η Θ Ι Κ Λ Μ Ν Ξ Ο Π Ρ Θ Σ Τ Υ Φ Χ Ψ"), (0x1d734, "Ω"),
    (0x1d736, "α β γ δ ε ζ η θ ι κ λ μ ν ξ ο π ρ ς σ τ υ φ χ ψ ω"),
    (0x1d750, "ε θ κ φ ρ π Α Β Γ Δ Ε Ζ Η Θ Ι Κ Λ Μ Ν Ξ Ο Π Ρ Θ Σ Τ Υ Φ Χ Ψ"), (0x1d76e, "Ω"),
    (0x1d770, "α β γ δ ε ζ η θ ι κ λ μ ν ξ ο π ρ ς σ τ υ φ χ ψ ω"),
    (0x1d78a, "ε θ κ φ ρ π Α Β Γ Δ Ε Ζ Η Θ Ι Κ Λ Μ Ν Ξ Ο Π Ρ Θ Σ Τ Υ Φ Χ Ψ"), (0x1d7a8, "Ω"),
    (0x1d7aa, "α β γ δ ε ζ η θ ι κ λ μ ν ξ ο π ρ ς σ τ υ φ χ ψ ω"), (0x1d7c4, "ε θ κ φ ρ π Ϝ ϝ"),
    (0x1d7ce, "0 1 2 3 4 5 6 7 8 9 0 1 2 3 4 5 6 7 8 9 0 1 2 3 4 5 6 7 8 9"),
    (0x1d7ec, "0 1 2 3 4 5 6 7 8 9 0 1 2 3 4 5 6 7 8 9"), (0x1ee00, "ا ب ج د"),
    (0x1ee05, "و ز ح ط ي ك ل م ن س ع ف ص ق ر ش ت ث خ ذ ض ظ غ ٮ ں ڡ ٯ"), (0x1ee21, "ب ج"),
    (0x1ee24, "ه"), (0x1ee27, "ح"), (0x1ee29, "ي ك ل م ن س ع ف ص ق"), (0x1ee34, "ش ت ث خ"),
    (0x1ee39, "ض"), (0x1ee3b, "غ"), (0x1ee42, "ج"), (0x1ee47, "ح"), (0x1ee49, "ي"),
    (0x1ee4b, "ل"), (0x1ee4d, "ن س ع"), (0x1ee51, "ص ق"), (0x1ee54, "ش"), (0x1ee57, "خ"),
    (0x1ee59, "ض"), (0x1ee5b, "غ"), (0x1ee5d, "ں"), (0x1ee5f, "ٯ"), (0x1ee61, "ب ج"),
    (0x1ee64, "ه"), (0x1ee67, "ح ط ي ك"), (0x1ee6c, "م ن س ع ف ص ق"), (0x1ee74, "ش ت ث خ"),
    (0x1ee79, "ض ظ غ ٮ"), (0x1ee7e, "ڡ"), (0x1ee80, "ا ب ج د ه و ز ح ط ي"),
    (0x1ee8b, "ل م ن س ع ف ص ق ر ش ت ث خ ذ ض ظ غ"), (0x1eea1, "ب ج د"), (0x1eea5, "و ز ح ط ي"),
    (0x1eeab, "ل م ن س ع ف ص ق ر ش ت ث خ ذ ض ظ غ"), (0x1fbf0, "0 1 2 3 4 5 6 7 8 9"),
    (0x2f800, "丽 丸 乁 𠄢 你 侮 侻 倂 偺 備 僧 像 㒞 𠘺 免 兔 兤 具 𠔜 㒹 內 再 𠕋 冗 冤 仌 冬 况 𩇟 凵"),
    (0x2f81e, "刃 㓟 刻 剆 割 剷 㔕 勇 勉 勤 勺 包 匆 北 卉 卑 博 即 卽 卿 卿 卿 𠨬 灰 及 叟 𠭣 叫 叱 吆"),
    (0x2f83c, "咞 吸 呈 周 咢 哶 唐 啓 啣 善 善 喙 喫 喳 嗂 圖 嘆 圗 噑 噴 切 壮 城 埴 堍 型 堲 報 墬 𡓤"),
    (0x2f85a, "売 壷 夆 多 夢 奢 𡚨 𡛪 姬 娛 娧 姘 婦 㛮 㛼 嬈 嬾 嬾 𡧈 寃 寘 寧 寳 𡬘 寿 将 当 尢 㞁 屠"),
    (0x2f878, "屮 峀 岍 𡷤 嵃 𡷦 嵮 嵫 嵼 巡 巢 㠯 巽 帨 帽 幩 㡢 𢆃 㡼 庰 庳 庶 廊 𪎒 廾 𢌱 𢌱 舁 弢 弢"),
    (0x2f896, "㣇 𣊸 𦇚 形 彫 㣣 徚 忍 志 忹 悁 㤺 㤜 悔 𢛔 惇 慈 慌 慎 慌 慺 憎 憲 憤 憯 懞 懲 懶 成 戛"),
    (0x2f8b4, "扝 抱 拔 捐 𢬌 挽 拼 捨 掃 揤 𢯱 搢 揅 掩 㨮 摩 摾 撝 摷 㩬 敏 敬 𣀊 旣 書 晉 㬙 暑 㬈 㫤"),
    (0x2f8d2, "冒 冕 最 暜 肭 䏙 朗 望 朡 杞 杓 𣏃 㭉 柺 枅 桒 梅 𣑭 梎 栟 椔 㮝 楂 榣 槪 檨 𣚣 櫛 㰘 次"),
    (0x2f8f0, "𣢧 歔 㱎 歲 殟 殺 殻 𣪍 𡴋 𣫺 汎 𣲼 沿 泍 汧 洖 派 海 流 浩 浸 涅 𣴞 洴 港 湮 㴳 滋 滇 𣻑"),
    (0x2f90e, "淹 潮 𣽞 𣾎 濆 瀹 瀞 瀛 㶖 灊 災 灷 炭 𠔥 煅 𤉣 熜 𤎫 爨 爵 牐 𤘈 犀 犕 𤜵 𤠔 獺 王 㺬 玥"),
    (0x2f92c, "㺸 㺸 瑇 瑜 瑱 璅 瓊 㼛 甤 𤰶 甾 𤲒 異 𢆟 瘐 𤾡 𤾸 𥁄 㿼 䀈 直 𥃳 𥃲 𥄙 𥄳 眞 真 真 睊 䀹"),
    (0x2f94a, "瞋 䁆 䂖 𥐝 硎 碌 磌 䃣 𥘦 祖 𥚚 𥛅 福 秫 䄯 穀 穊 穏 𥥼 𥪧 𥪧 竮 䈂 𥮫 篆 築 䈧 𥲀 糒 䊠"),
    (0x2f968, "糨 糣 紀 𥾆 絣 䌁 緇 縂 繅 䌴 𦈨 𦉇 䍙 𦋙 罺 𦌾 羕 翺 者 𦓚 𦔣 聠 𦖨 聰 𣍟 䏕 育 脃 䐋 脾"),
    (0x2f986, "媵 𦞧 𦞵 𣎓 𣎜 舁 舄 辞 䑫 芑 芋 芝 劳 花 芳 芽 苦 𦬼 若 茝 荣 莭 茣 莽 菧 著 荓 菊 菌 菜"),
    (0x2f9a4, "𦰶 𦵫 𦳕 䔫 蓱 蓳 蔖 𧏊 蕤 𦼬 䕝 䕡 𦾱 𧃒 䕫 虐 虜 虧 虩 蚩 蚈 蜎 蛢 蝹 蜨 蝫 螆 䗗 蟡 蠁"),
    (0x2f9c2, "䗹 衠 衣 𧙧 裗 裞 䘵 裺 㒻 𧢮 𧥦 䚾 䛇 誠 諭 變 豕 𧲨 貫 賁 贛 起 𧼯 𠠄 跋 趼 跰 𠣞 軔 輸"),
    (0x2f9e0, "𨗒 𨗭 邔 郱 鄑 𨜮 鄛 鈸 鋗 鋘 鉼 鏹 鐕 𨯺 開 䦕 閷 𨵷 䧦 雃 嶲 霣 𩅅 𩈚 䩮 䩶 韠 𩐊 䪲 𩒖"),
    (0x2f9fe, "頋 頋 頩 𩖶 飢 䬳 餩 馧 駂 駾 䯎 𩬰 鬒 鱀 鳽 䳎 䳭 鵧 𪃎 䳸 𪄅 𪈎 𪊑 麻 䵖 黹 黾 鼅 鼏 鼖"), (0x2fa1c, "鼻 𪘀")]

/-- The decomposition of a character in a run, if it is in it. -/
def runDecomposition? (run : Nat × String) (n : Nat) : Option (List Char) :=
  if n < run.1 then none else (words run.2.toList)[n - run.1]?

/-- The plain characters and marks that a character stands for. -/
def decomposeChar (c : Char) : List Char :=
  if c.toNat < 128 then [c]
  else (decompositionRuns.findSome? (runDecomposition? · c.toNat)).getD [c]

/-- An ASCII character stands for itself. -/
theorem decomposeChar_of_ascii {c : Char} (h : c.toNat < 128) : decomposeChar c = [c] := by
  simp [decomposeChar, h]

end SyntaxBridge.Text
