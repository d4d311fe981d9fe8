import TemplateLexer.Text.Charset

set_option autoImplicit false

namespace TemplateLexer.Text.Charset

def jisX0213First : Charset := ⟨[
  (0xa2af, "＇＂－～〳〴〵〻〼ヿゟ"),
  (0xa2c2, "⊄⊅⊊⊋∉∅⌅⌆"),
  (0xa2d1, "⊕⊖⊗∥∦⦅⦆〘〙〖〗"),
  (0xa2eb, "≢≃≅≈≶≷↔"),
  (0xa2fa, "♮♫♬♩"),
  (0xa3a1, "▷▶◁◀↗↘↖↙⇄⇨⇦⇧⇩⤴⤵"),
  (0xa3ba, "⦿◉〽﹆﹅◦•"),
  (0xa3db, "∓ℵℏ㏋ℓ℧"),
  (0xa3fb, "゠–⧺⧻"),
  (0xa4f4, "ゔゕゖ"),
  (0xa6b9, "♤♠♢♦♡♥♧♣"),
  (0xa6da, "⓵⓶⓷⓸⓹⓺⓻⓼⓽⓾☖☗〠☎☀☁☂☃♨▱ㇰㇱㇲㇳㇴㇵㇶㇷㇸㇹ\ufffdㇺㇻㇼㇽㇾㇿ"),
  (0xa7c2, "⎾⎿⏀⏁⏂⏃⏄⏅⏆⏇⏈⏉⏊⏋⏌"),
  (0xa7f2, "ヷヸヹヺ⋚⋛⅓⅔⅕✓⌘␣⏎"),
  (0xa8c1, "㉑㉒㉓㉔㉕㉖㉗㉘㉙㉚㉛㉜㉝㉞㉟㊱㊲㊳㊴㊵㊶㊷㊸㊹㊺㊻㊼㊽㊾㊿"),
  (0xa8e7, "◐◑◒◓‼⁇⁈⁉\ufffd\ufffd\ufffdḾḿǸǹ"),
  (0xa9a1, "€\u00a0"),
  (0xa9a8, "«\u00ad\ufffd\ufffd²³·\ufffd¹\ufffd»¼½¾"),
  (0xa9c7, "Ð"),
  (0xaae5, "ɱʋɾʃʒɬɮɹʈɖɳɽʂʐɻɭɟɲʝʎɡ\ufffdɰʁ\ufffdʕ"),
  (0xaba1, "ʔɦʘǂɓɗʄɠƓ\ufffd\ufffdɨʉɘɵəɜɞɐɯʊɤʌɔɑɒʍɥʢʡɕʑɺɧɚ\ufffdǽὰά"),
  (0xabd0, "ὲέ\u0361ˈˌːˑ\u0306‿\u030b\u0301\u0304\u0300\u030f\u030c\u0302˥˦˧˨˩\ufffd\ufffd\u0325"),
  (0xabe8, "\u032c\u0339\u031c\u031f\u0320\u0308\u033d\u0329\u032f˞\u0324\u0330\u033c\u0334\u031d"),
  (0xabf7, "\u031e\u0318\u0319\u032a\u033a\u033b\u0303\u031a"),
  (0xaca1, "❶❷❸❹❺❻❼❽❾❿⓫⓬⓭⓮⓯⓰⓱⓲⓳⓴ⅰⅱⅲⅳⅴⅵⅶⅷⅸⅹⅺⅻⓐⓑⓒⓓⓔⓕⓖⓗⓘⓙⓚⓛⓜⓝⓞ"),
  (0xacd0, "ⓟⓠⓡⓢⓣⓤⓥⓦⓧⓨⓩ㋐㋑㋒㋓㋔㋕㋖㋗㋘㋙㋚㋛㋜㋝㋞㋟㋠㋡㋢㋣㋺㋩㋥㋭㋬"),
  (0xacfd, "⁑⁂"),
  (0xada1, "①②③④⑤⑥⑦⑧⑨⑩⑪⑫⑬⑭⑮⑯⑰⑱⑲⑳ⅠⅡⅢⅣⅤⅥⅦⅧⅨⅩⅪ㍉㌔㌢㍍㌘㌧㌃㌶㍑㍗㌍㌦㌣㌫㍊㌻"),
  (0xadd0, "㎜㎝㎞㎎㎏㏄㎡Ⅻ"),
  (0xaddf, "㍻〝〟\ufffd㏍℡㊤㊥㊦㊧㊨㈱㈲㈹㍾㍽㍼\ufffd\ufffd\ufffd∮"),
  (0xadf8, "∟⊿\ufffd\ufffd\ufffd❖☞"),
  (0xaea1, "俱𠀋㐂"),
  (0xaeb8, "侮\ufffd\ufffd\ufffd倂"),
  (0xaec9, "僧"),
  (0xaed0, "免\ufffd\ufffd㒵\ufffd凃凊"),
  (0xaedb, "㓛"),
  (0xaee3, "勉\ufffd勐\ufffd\ufffd勤\ufffd勻\ufffd匇\ufffd卑\ufffd\ufffd卽\ufffd\ufffd\ufffd吒"),
  (0xafac, "喝\ufffd\ufffd嘆"),
  (0xafb4, "噶\ufffd器"),
  (0xafc2, "𡈽圡"),
  (0xafcb, "﨏𡌛"),
  (0xafd7, "塚\ufffd\ufffd塀\ufffd\ufffd增墨\ufffd𡑮"),
  (0xafe5, "壠"),
  (0xaff7, "媄\ufffd\ufffd\ufffd𡢽\ufffd\ufffd剝"),
  (0xcfd4, "𠮟"),
  (0xcfda, "寬尒\ufffd\ufffd\ufffd㞍\ufffd層屮𡚴"),
  (0xcfeb, "峐\ufffd\ufffd𡸴㟢\ufffd\ufffd﨑\ufffd嵇嵓"),
  (0xcffa, "嶤\ufffd\ufffd\ufffd吞"),
  (0xf4a7, "噓巢"),
  (0xf4ae, "廊\ufffd廹开"),
  (0xf4c4, "徵德"),
  (0xf4d0, "悔"),
  (0xf4dc, "慨\ufffd憎\ufffd\ufffd懲\ufffd戾"),
  (0xf4e8, "抅"),
  (0xf4f3, "揭"),
  (0xf4f8, "摹"),
  (0xf5a8, "敏\ufffd\ufffd既"),
  (0xf5b0, "昺"),
  (0xf5b8, "晈\ufffd𣇄\ufffd晚\ufffd晥"),
  (0xf5c3, "暑\ufffd\ufffd\ufffd曆\ufffd㬢"),
  (0xf5ce, "朗"),
  (0xf5dc, "柼栁"),
  (0xf5e5, "梅"),
  (0xf5f2, "𣗄"),
  (0xf5fa, "﨔\ufffd\ufffd槏㮶"),
  (0xf6a1, "㯃\ufffd槩槪\ufffd槶\ufffd\ufffd𣜿"),
  (0xf6b0, "橫\ufffd𣝣\ufffd檔"),
  (0xf6ba, "㰏欄"),
  (0xf6c3, "步\ufffd歷\ufffd\ufffd\ufffd殺每\ufffd毗"),
  (0xf6d3, "沪"),
  (0xf6da, "泻"),
  (0xf6e0, "𣳾"),
  (0xf6e7, "浘\ufffd海\ufffd\ufffd涉"),
  (0xf6f3, "淚\ufffd\ufffd\ufffd渚渴\ufffd\ufffd\ufffd溫"),
  (0xf7a3, "漐\ufffd漢"),
  (0xf7be, "瀨"),
  (0xf7d0, "焮\ufffd\ufffd\ufffd煑煮"),
  (0xf7da, "凞"),
  (0xf7e3, "爕\ufffd\ufffd㸿\ufffd\ufffd\ufffd狀\ufffd𤟱\ufffd\ufffd猪"),
  (0xf8a5, "琢"),
  (0xf8c7, "甁"),
  (0xf8cd, "㽲"),
  (0xf8e3, "皞\ufffd\ufffd皶"),
  (0xf8fe, "𥒎"),
  (0xf9a3, "硏硑\ufffd\ufffd碑\ufffd𥔎"),
  (0xf9b0, "礮\ufffd\ufffd社祉\ufffd\ufffd祈祐祖\ufffd祝神祥\ufffd禍禎福"),
  (0xf9c7, "𥝱"),
  (0xf9cd, "穀\ufffd\ufffd\ufffd突\ufffd\ufffd𥧄"),
  (0xf9da, "笒\ufffd笻"),
  (0xf9e4, "節"),
  (0xf9e9, "簞\ufffd\ufffd\ufffd䉤𥶡"),
  (0xfaa8, "綠\ufffd\ufffd\ufffd緖緣練"),
  (0xfab3, "繁"),
  (0xfaba, "署"),
  (0xfac4, "者"),
  (0xfaca, "胊"),
  (0xfad8, "臭䑓䑛\ufffd\ufffd𦫿"),
  (0xfaed, "荢"),
  (0xfba2, "菡"),
  (0xfba7, "著\ufffd葟"),
  (0xfbb3, "𦹀"),
  (0xfbba, "﨟"),
  (0xfbc0, "薰"),
  (0xfbc9, "𧃴"),
  (0xfbce, "虛虜\ufffd䖝"),
  (0xfbe0, "䗪\ufffd蟬"),
  (0xfbec, "𧚄\ufffd\ufffd褐"),
  (0xfbf9, "視"),
  (0xfcaa, "諐\ufffd\ufffd\ufffd諸謁謹\ufffd\ufffd\ufffd譩讝\ufffd\ufffd賓\ufffd賴\ufffd\ufffd贈"),
  (0xfcc9, "𨉷\ufffd䡄"),
  (0xfcd1, "𨏍"),
  (0xfcd9, "逸"),
  (0xfce7, "郞\ufffd\ufffd都\ufffd鄕"),
  (0xfdb5, "錄"),
  (0xfdbb, "鍊"),
  (0xfdd8, "䦰"),
  (0xfddd, "隆"),
  (0xfde3, "難\ufffd\ufffd\ufffd霻靍"),
  (0xfdf6, "響"),
  (0xfdfb, "頻"),
  (0xfea4, "類"),
  (0xfeab, "馞"),
  (0xfeb4, "驒"),
  (0xfebe, "䰗"),
  (0xfec3, "魲"),
  (0xfed6, "鱥"),
  (0xfedc, "鵒"),
  (0xfee2, "鷀\ufffd\ufffd\ufffd𪆐"),
  (0xfef1, "黃黑"),
  (0xfefa, "姸屛幷")]⟩

def jisX0213Second : Charset := ⟨[
  (0x8fa1a1, "𠂉\ufffd丏\ufffd丩"),
  (0x8fa1aa, "么𠂢\ufffd㐆𠂤\ufffd\ufffd\ufffd㐬㐮\ufffd亻𠆢亼\ufffd仈\ufffd仫"),
  (0x8fa1c1, "佤"),
  (0x8fa1c6, "𠈓"),
  (0x8fa1cf, "俦"),
  (0x8fa1d6, "㑪"),
  (0x8fa1de, "㑨"),
  (0x8fa1e8, "傣傈\ufffd\ufffd傕\ufffd\ufffd\ufffd𠌫傱\ufffd傻\ufffd\ufffd僳𠎁\ufffd𠍱\ufffd僙僡\ufffd㒒"),
  (0x8fa3a2, "𠏹\ufffd\ufffd𠑊兠𠔉关\ufffd\ufffd㒼\ufffd\ufffd\ufffd㓇\ufffd𠗖𠘨"),
  (0x8fa3b8, "𠝏\ufffd\ufffd剬\ufffd劄\ufffd𠠇\ufffd𠠺"),
  (0x8fa3c7, "勊㔟\ufffd𠢹\ufffd\ufffd\ufffd匤\ufffd\ufffd\ufffd𠥼𠦝卧\ufffd卺\ufffd\ufffd𠫓\ufffd\ufffd𠬝㕝"),
  (0x8fa3de, "㕞\ufffd\ufffd㕣叴\ufffd呕吤\ufffd㕮\ufffd\ufffd\ufffd呬咊\ufffd\ufffd咠"),
  (0x8fa3f6, "哃𠵅\ufffd\ufffd哱哳"),
  (0x8fa4a3, "㖦\ufffd\ufffd㖨\ufffd\ufffd\ufffd𠷡啽\ufffd\ufffd\ufffd㗅\ufffd𠺕𠹭"),
  (0x8fa4b7, "嗝㗚\ufffd𠹤\ufffd嘨𠽟嘇\ufffd\ufffd\ufffd㗴\ufffd\ufffd\ufffd噇\ufffd\ufffd\ufffd㘅"),
  (0x8fa4d2, "嚲"),
  (0x8fa4d9, "𡈁\ufffd\ufffd𡉕\ufffd𡉻"),
  (0x8fa4e3, "𡉴"),
  (0x8fa4ea, "𡋤𡋗"),
  (0x8fa4f1, "埗𡋽\ufffd𡌶𡍄\ufffd\ufffd\ufffd㙊\ufffd埻"),
  (0x8fa5a5, "𡏄"),
  (0x8fa5aa, "墋"),
  (0x8fa5b0, "墪\ufffd𡑭壃\ufffd\ufffd\ufffd壴\ufffd\ufffd\ufffd复\ufffd\ufffd𡗗㚑夽㚙\ufffd㚖𦰩\ufffd\ufffd"),
  (0x8fa5c7, "𡙇"),
  (0x8fa5d5, "𡜆𡝂㛏\ufffd\ufffd娗"),
  (0x8fa5ee, "嫰"),
  (0x8fa5fe, "𡧃"),
  (0x8fa8a3, "㝡\ufffd㝢寎\ufffd㝬㝫\ufffd\ufffd㝵尃\ufffd\ufffd𡱖屟"),
  (0x8fa8b7, "𡴭𡵅\ufffd𡵸𡵢\ufffd\ufffd㟁𡶡𡶜\ufffd\ufffd\ufffd岧𡶒岭\ufffd𡶷\ufffd𡷠𡸳\ufffd崐\ufffd崝崠"),
  (0x8fa8d6, "㟨\ufffd\ufffd㟴\ufffd𡼞㟽\ufffd㠀\ufffd\ufffd嶗"),
  (0x8fa8e6, "𡽶\ufffd巑巗\ufffd\ufffd𡿺\ufffd\ufffd㠯\ufffd㠶\ufffd\ufffd㡀"),
  (0x8fa8f9, "㡜\ufffd㡡"),
  (0x8faca2, "𢅻\ufffd\ufffd\ufffd庹\ufffd\ufffd\ufffd廙𢌞廽\ufffd\ufffd\ufffd𢎭弞"),
  (0x8facbb, "㣺"),
  (0x8facc6, "㤗\ufffd怢\ufffd㤚"),
  (0x8facd0, "𢛳"),
  (0x8facd7, "惮"),
  (0x8facdf, "愺㥯"),
  (0x8face5, "𢡛"),
  (0x8faced, "𢢫\ufffd\ufffd\ufffd懵𢦏"),
  (0x8facfa, "扡\ufffd扻"),
  (0x8fada1, "抙\ufffd\ufffd𢪸"),
  (0x8fada9, "𢭏𢭐挲\ufffd挻"),
  (0x8fadb2, "𢭆捙𢰝𢮦\ufffd\ufffd\ufffd𢰤\ufffd\ufffd揷"),
  (0x8fadc1, "揫"),
  (0x8fadd6, "𢷡"),
  (0x8faddb, "㩮\ufffd\ufffd\ufffd㩳\ufffd攲敄"),
  (0x8fade7, "斄\ufffd\ufffd\ufffd斵斸"),
  (0x8fadf1, "㫖\ufffd\ufffd旼"),
  (0x8fadfc, "㫪𣇃"),
  (0x8faea2, "晣𣇵𣆶\ufffd\ufffd\ufffd晭"),
  (0x8faeae, "㬎\ufffd\ufffd\ufffd㬚\ufffd㬜\ufffd㫗朁\ufffd朒𣍲\ufffd𣏓𣏒\ufffd杍\ufffd\ufffd𣏐𣏤𣏕\ufffd"),
  (0x8faec7, "𣏚枒𣏟荣栐"),
  (0x8faed2, "柛\ufffd\ufffd𣑊𣑑𣑋栘\ufffd\ufffd𣑥\ufffd\ufffd栾\ufffd\ufffd桉\ufffd\ufffd\ufffd㭷"),
  (0x8faeeb, "梐\ufffd㭭\ufffd梙\ufffd\ufffd\ufffd梫梴\ufffd\ufffd𣓤𣕚﨓棃"),
  (0x8fafa2, "棤\ufffd\ufffd棷椃椇㮇㮈𣖔\ufffd㮍楆"),
  (0x8fafb4, "㮤\ufffd\ufffd\ufffd榰\ufffd\ufffd\ufffd槀\ufffd\ufffd𣘹𣙇\ufffd𣘸𣘺槣\ufffd\ufffd\ufffd㯍槴"),
  (0x8fafce, "𣜜\ufffd樳"),
  (0x8fafd5, "橺\ufffd\ufffd\ufffd𣜌\ufffd\ufffd\ufffd㯰\ufffd\ufffd檡𣝤"),
  (0x8fafe9, "𣟿𣟧\ufffd\ufffd\ufffd櫳\ufffd𣠤欋\ufffd\ufffd\ufffd𣠽\ufffd㰦\ufffd\ufffd\ufffd歬\ufffd歺殁"),
  (0x8feea3, "𣪘\ufffd\ufffd毇毈"),
  (0x8feeaf, "氊"),
  (0x8feeb4, "𣱿"),
  (0x8feeb9, "沄\ufffd㳃\ufffd\ufffd\ufffd沭\ufffd\ufffd㳒"),
  (0x8feec8, "泭𣴀洀\ufffd洤"),
  (0x8feed2, "浛\ufffd浠\ufffd涀涁涊涍\ufffd\ufffd𣵀渗𣷺𣷹𣷓涫涮\ufffd淂洴\ufffd\ufffd\ufffd淐"),
  (0x8feef1, "㴑"),
  (0x8feef7, "湌"),
  (0x8feefe, "㴞"),
  (0x8fefa3, "溴\ufffd\ufffd\ufffd滙漵"),
  (0x8fefaf, "漥\ufffd\ufffd𣽾\ufffd\ufffd\ufffd潠\ufffd澘\ufffd\ufffd\ufffd澾\ufffd\ufffd\ufffd㵤"),
  (0x8fefc3, "濉\ufffd\ufffd\ufffd𤂖\ufffd\ufffd\ufffd瀊\ufffd𤄃\ufffd瀺\ufffd\ufffd灇\ufffd㶚\ufffd"),
  (0x8fefd7, "灩"),
  (0x8fefe0, "炻𤇆炟\ufffd𤇾烬"),
  (0x8fefee, "焈\ufffd㷀"),
  (0x8feff5, "煓\ufffd㷔熖"),
  (0x8feffd, "熮"),
  (0x8ff0a2, "𤎼"),
  (0x8ff0a8, "㸅爫"),
  (0x8ff0ae, "丬\ufffd\ufffd牗\ufffd𤘩"),
  (0x8ff0b9, "𤚥\ufffd\ufffd犰\ufffd\ufffd㹠\ufffd㹦㹨"),
  (0x8ff0c9, "㺃猹\ufffd\ufffd猳\ufffd\ufffd㺔\ufffd\ufffd𤢖"),
  (0x8ff0da, "玊玔"),
  (0x8ff0e0, "玨"),
  (0x8ff0eb, "琓"),
  (0x8ff0f1, "瑓"),
  (0x8ff0fa, "璈𤩍\ufffd璗"),
  (0x8ff1a3, "璥"),
  (0x8ff1a8, "璺瓖"),
  (0x8ff1ae, "𤭖\ufffd𤭯\ufffd\ufffd\ufffd㽗𤰖"),
  (0x8ff1bd, "畬畲"),
  (0x8ff1c4, "𤴔疌㽵\ufffd㽷疰疷"),
  (0x8ff1cf, "痓痝"),
  (0x8ff1d9, "瘘\ufffd\ufffd㾮𤸎\ufffd\ufffd\ufffd𤸷\ufffd瘨\ufffd\ufffd𤹪㿉\ufffd𤺋\ufffd\ufffd㿗\ufffd"),
  (0x8ff1f0, "皡\ufffd\ufffd\ufffd皯𥁊\ufffd𥁕\ufffd\ufffd𥄢"),
  (0x8ff2a1, "𥆩䀹𥇥𥇍睘\ufffd\ufffd𥈞\ufffd睼\ufffd𥉌䁘\ufffd\ufffd\ufffd瞤瞩"),
  (0x8ff2b9, "䂓\ufffd\ufffd\ufffd𥐮"),
  (0x8ff2c2, "砙\ufffd砬\ufffd\ufffd\ufffd𥓙"),
  (0x8ff2d7, "磹\ufffd\ufffd磾𥖧\ufffd礛礰"),
  (0x8ff2e4, "䄅"),
  (0x8ff2f1, "秌种\ufffd䅈𥞩𥞴䅏"),
  (0x8ff2fd, "䅣"),
  (0x8ff3b2, "𥧔䆴\ufffd\ufffd窾䆿\ufffd\ufffd竧\ufffd\ufffd𥫤𥫣\ufffd𥫱"),
  (0x8ff3c7, "䇦䇳筿\ufffd䇮\ufffd筹"),
  (0x8ff3d2, "𥮲䈇\ufffd\ufffd\ufffd䈎"),
  (0x8ff3dd, "𥱋𥱤"),
  (0x8ff3e3, "篰"),
  (0x8ff3e9, "籅\ufffd\ufffd籗"),
  (0x8ff3f1, "籯\ufffd𥸮𥹖𥹥\ufffd𥹢\ufffd\ufffd\ufffd𥻘\ufffd𥻂"),
  (0x8ff4a2, "𥻨\ufffd𥼣\ufffd\ufffd𥽜\ufffd\ufffd\ufffd䋆\ufffd\ufffd𥿠𥿔"),
  (0x8ff4b4, "𦀌𥿻䋖"),
  (0x8ff4bb, "䋝\ufffd𦀗"),
  (0x8ff4c2, "𦁠"),
  (0x8ff4c8, "緀"),
  (0x8ff4ce, "䌂𦃭縉"),
  (0x8ff4d9, "繵\ufffd\ufffd\ufffd䌫\ufffd\ufffd\ufffd䍃"),
  (0x8ff4e8, "㓁𦉰\ufffd𦊆"),
  (0x8ff4f2, "𦍌\ufffd养𣴎\ufffd\ufffd\ufffd𦐂"),
  (0x8ff5a2, "耂"),
  (0x8ff5ab, "聃\ufffd\ufffd\ufffd聻肙\ufffd肤\ufffd\ufffd𦙾胅\ufffd\ufffd胦𦚰脍胵胻䏮\ufffd\ufffd\ufffd䏰"),
  (0x8ff5c6, "𦜝脽䐈\ufffd䐗\ufffd䐜\ufffd\ufffd䐢\ufffd\ufffd臁\ufffd臖\ufffd𦣝\ufffd𦣪"),
  (0x8ff5da, "𦥑\ufffd\ufffd𦥯舄𦧝\ufffd\ufffd\ufffd𦨞\ufffd\ufffd舼\ufffd艉\ufffd𦩘\ufffd䑶\ufffd䑺艗𦪌"),
  (0x8ff5f3, "𦪷艹艹艹䒑"),
  (0x8ff5fc, "芓"),
  (0x8ff6aa, "茌"),
  (0x8ff6b2, "䒾\ufffd䓔䒳"),
  (0x8ff6bf, "菥"),
  (0x8ff6c4, "𦱳萗"),
  (0x8ff6ce, "𦳝"),
  (0x8ff6d4, "䔍\ufffd蒗\ufffd\ufffd䔈蓎\ufffd\ufffd𦹥"),
  (0x8ff6e6, "蔛"),
  (0x8ff6ed, "䔥䕃蔾"),
  (0x8ff6f5, "𦾔"),
  (0x8ff6fe, "𦿸"),
  (0x8ff7a1, "𦿶𦿷"),
  (0x8ff7a8, "藙\ufffd藡"),
  (0x8ff7b1, "蘤\ufffd𧄍蘹\ufffd𧄹\ufffd蘒"),
  (0x8ff7be, "蚇蚉\ufffd\ufffd\ufffd蚝\ufffd﨡"),
  (0x8ff7ce, "蛦䖸"),
  (0x8ff7de, "蝑"),
  (0x8ff7e3, "蝼𧏛𧏚"),
  (0x8ff7eb, "𧏾䗥\ufffd𧐐\ufffd\ufffd蟵\ufffd𧑉\ufffd蟥蟦"),
  (0x8ff8a4, "䘏"),
  (0x8ff8a9, "𧘕𧘔\ufffd𧘱衯\ufffd袼"),
  (0x8ff8b4, "𧚓"),
  (0x8ff8ba, "䙁\ufffd𧜎褷𧜣\ufffd\ufffd\ufffd𧝒䙥\ufffd覀"),
  (0x8ff8ce, "䚡"),
  (0x8ff8d3, "䚯\ufffd\ufffd𧦅訡"),
  (0x8ff8e3, "𧪄\ufffd\ufffd謍"),
  (0x8ff8eb, "䜌譑\ufffd\ufffd譿"),
  (0x8ff8f7, "𧮳\ufffd𧮾𧯇"),
  (0x8ff9a5, "𧲸\ufffd\ufffd\ufffd䝤"),
  (0x8ff9af, "𧶠\ufffd賱𧸐\ufffd贎"),
  (0x8ff9b9, "𧾷"),
  (0x8ff9be, "踌䟽\ufffd\ufffd𨂊"),
  (0x8ff9c8, "𨂻䠖"),
  (0x8ff9d2, "躘"),
  (0x8ff9d7, "躶\ufffd𨊂\ufffd\ufffd䡎\ufffd𨋳\ufffd\ufffd\ufffd輫\ufffd轊\ufffd𨐌\ufffd辴辶\ufffd𨑕\ufffd"),
  (0x8ff9ee, "﨤"),
  (0x8ff9fa, "𨕫\ufffd\ufffd\ufffd𨗈"),
  (0x8ffaa1, "𨗉"),
  (0x8ffaa7, "䢵"),
  (0x8ffaac, "𨛗\ufffd\ufffd𨛺\ufffd郲"),
  (0x8ffabe, "酆"),
  (0x8ffacd, "釄\ufffd𨥉𨥆"),
  (0x8ffad6, "鈗𨥫"),
  (0x8ffade, "鉖"),
  (0x8ffae5, "𨦇𨦈"),
  (0x8ffaf1, "𨦺𨦻"),
  (0x8ffafe, "𨨞"),
  (0x8ffba1, "𨨩鋷"),
  (0x8ffbac, "𨩱𨩃"),
  (0x8ffbb2, "鍫\ufffd\ufffd\ufffd𨪙𨫍"),
  (0x8ffbbc, "鏵𨫤𨫝鏱"),
  (0x8ffbce, "𨯁𨯯"),
  (0x8ffbd4, "閆\ufffd\ufffd𨴐\ufffd\ufffd𨵱\ufffd𨷻𨸟\ufffd\ufffd阴𨸶\ufffd\ufffd\ufffd𨺉\ufffd𨻫\ufffd𨼲䧧"),
  (0x8ffbef, "隽䧺𨿸\ufffd\ufffd\ufffd䨄霔\ufffd䨩霶\ufffd靇"),
  (0x8ffca2, "𩊠𩊱"),
  (0x8ffcb2, "頄"),
  (0x8ffcb7, "䪼𩒐"),
  (0x8ffcc2, "𩗏\ufffd\ufffd\ufffd颼\ufffd\ufffd飇飋飠𩙿"),
  (0x8ffcd1, "飰飱\ufffd\ufffd䬻𩛰\ufffd\ufffd𩜙\ufffd\ufffd\ufffd𩝐"),
  (0x8ffcec, "馣"),
  (0x8ffcf6, "𩣆\ufffd\ufffd駼騊\ufffd\ufffd騚"),
  (0x8ffda1, "騱\ufffd\ufffd\ufffd驘䯂\ufffd䯊骷䯒\ufffd𩩲"),
  (0x8ffdb1, "䯨"),
  (0x8ffdbf, "䰠"),
  (0x8ffdc6, "魶"),
  (0x8ffdcb, "𩷛𩸽"),
  (0x8ffdd8, "鯮𩸕\ufffd𩺊\ufffd𩹉"),
  (0x8ffde2, "鰝"),
  (0x8ffde7, "𩻄"),
  (0x8ffded, "𩻩\ufffd\ufffd𩻛"),
  (0x8ffdf9, "鱭"),
  (0x8ffdfe, "鱺"),
  (0x8ffea5, "𩿎\ufffd\ufffd\ufffd𪀯䳄𪀚\ufffd䳑"),
  (0x8ffeb2, "𪃹\ufffd\ufffd𪂂鵳"),
  (0x8ffebc, "鶙"),
  (0x8ffec1, "鶽"),
  (0x8ffec9, "鷣\ufffd䴇\ufffd\ufffd鸍"),
  (0x8ffed3, "𢈘"),
  (0x8ffed8, "𪎌麽𪐷"),
  (0x8ffee0, "䵷"),
  (0x8ffeee, "𪗱\ufffd𪘂\ufffd𪘚\ufffd\ufffd\ufffd𪚲")]⟩

end TemplateLexer.Text.Charset
