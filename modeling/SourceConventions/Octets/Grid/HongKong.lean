import SourceConventions.Octets.Grid

/-!
# Chinese characters of the Hong Kong supplement
-/

namespace SourceConventions.Grid

/-- The characters that the Hong Kong supplement has beside or instead of those of Big5. -/
def hongKong : Grid := ofText 0x8740
  "8740 䏰䰲䘃䖦䕸𧉧䵷䖳𧲱䳢𧳅㮕䜶䝄䱇䱀𤊿𣘗𧍒𦺋𧃒䱗𪍑䝏䗚䲅𧱬䴇䪤䚡𦬣爥𥩔𡩣𣸆𣽡晍囻 8767 綕夝𨮹㷴霴
    𧯯寛𡵞媤㘥𩺰嫑宷峼杮薓𩥅瑡璝 8840 ㇀㇁㇂㇃㇄𠄌㇅𠃑𠃍㇆㇇𠃋𡿨㇈𠃊㇉㇊㇋㇌𠄎㇍㇎ĀÁǍÀĒÉĚÈŌÓǑÒ
    8863 Ế 8865 ỀÊāáǎàɑēéěèīíǐìōóǒòūúǔùǖǘǚ 88A1 ǜü 88A4 ế 88A6 ềêɡ⏚⏛
    8940 𪎩𡅅 8943 攊 8946 丽滝鵎釟 894C 𧜵撑会伨侨兖兴农凤务动医华发变团声处备夲头学实実岚庆总斉柾
    栄桥济炼电纤纬纺织经统缆缷艺苏药视设询车轧轮 89A1 琑糼緍楆竉刧 89AB 醌碸酞肼 89B0 贋胶𠧧
    89B5 肟黇䳍鷉鸌䰾𩷶𧀎鸊𪄳㗁 89C1 溚舾甙 89C5 䤑马骏龙禇𨑬𡷊𠗐𢫦两亁亀亇亿仫伷㑌侽㹈倃傈㑽㒓㒥円
    夅凛凼刅争剹劐匧㗇厩㕑厰㕓参吣㕭㕲㚁咓咣咴咹哐哯唘唣唨㖘唿㖥㖿嗗㗅 8A40 𧶄唥 8A43 𠱂𠴕𥄫喐𢳆㧬𠍁
    蹆𤶸𩓥䁓𨂾睺𢰸㨴䟕𨅝𦧲𤷪擝𠵼𠾴𠳕𡃴撍蹾𠺖𠰋𠽤𢲩𨉖𤓓 8A64 𠵆𩩍𨃩䟴𤺧𢳂骲㩧𩗴㿭㔆𥋇𩟔𧣈𢵄鵮頕
    8A76 䏙𦂥撴哣𢵌𢯊𡁷㧻𡁯 8AA1 𦛚𦜖𧦠擪𥁒𠱃蹨𢆡𨭌𠜱 8AAC 䠋𠆩㿺塳𢶍 8AB2 𤗈𠓼𦂗𠽌𠶖啹䂻䎺
    8ABB 䪴𢩦𡂝膪飵𠶜捹㧾𢝵跀嚡摼㹃 8AC9 𪘁𠸉𢫏𢳉 8ACE 𡃈𣧂㦒㨆𨊛㕸𥹉𢃇噒𠼱𢲲𩜠㒼氽𤸻 8ADF 𧕴𢺋𢈈𪙛
    𨳍𠹺𠰴𦠜羓𡃏𢠃𢤹㗻𥇣𠺌𠾍𠺪㾓𠼰𠵇𡅏𠹌 8AF6 𠺫𠮩𠵈𡃀𡄽㿹𢚖搲𠾭 8B40 𣏴𧘹𢯎𠵾𠵿𢱑𢱕㨘𠺘𡃇𠼮𪘲𦭐𨳒𨶙
    𨳊閪哌苄喹 8B55 𩻃鰦骶𧝞𢷮煀腭胬尜𦕲脴㞗卟𨂽醶𠻺𠸏𠹷𠻻㗝𤷫㘉𠳖嚯𢞵𡃉𠸐𠹸𡁸𡅈𨈇𡑕𠹹𤹐𢶤婔𡀝𡀞𡃵𡃶
    垜𠸑 8BA1 𧚔𨋍𠾵𠹻𥅾㜃𠾶𡆀𥋘𪊽𤧚𡠺𤅷𨉼墙剨㘚𥜽箲孨䠀䬬鼧䧧鰟鮍𥭴𣄽嗻㗲嚉丨夂𡯁屮靑𠂆乛亻㔾尣彑忄
    㣺扌攵歺氵氺灬爫丬犭𤣩罒礻糹罓𦉪㓁 8BDE 𦍋耂肀𦘒𦥑卝衤见𧢲讠贝钅镸长门𨸏韦页风飞饣𩠐鱼鸟黄歯龜丷
    𠂇阝户钢 8C40 倻淾𩱳龦㷉袏𤅎灷峵䬠𥇍㕙𥴰愢𨨲辧釶熑朙玺𣊁𪄇㲋𡦀䬐磤琂冮𨜏䀉橣𪊺䈣蘏𠩯稪𩥇𨫪靕灍匤
    𢁾鏴盙𨧣龧矝亣俰傼丯众龨吴綋墒壐𡶶庒庙忂𢜒斋 8CA1 𣏹椙橃𣱣泿 8CA7 爀𤔅玌㻛𤨓嬕璹讃𥲤𥚕窓篬糃繬苸
    薗龩袐龪躹龫迏蕟駠鈡龬𨶹𡐿䁱䊢娚 8CC9 顨杫䉶圽 8CCE 藖𤥻芿𧄍䲁𦵴嵻𦬕𦾾龭龮宖龯曧繛湗秊㶈䓃𣉖𢞖䎚
    䔶 8CE6 峕𣬚諹屸㴒𣕑嵸龲煗䕘𤃬𡸣䱷㥸㑊𠆤𦱁諌侴𠈹妿腬顖𩣺弻 8D40 𠮟 8D42 𢇁𨥭䄂䚻𩁹㼇龳𪆵䃸㟖䛷𦱆
    䅼𨚲𧏿䕭㣔𥒚䕡䔛䶉䱻䵶䗪㿈𤬏㙡䓞䒽䇭崾嵈嵖㷼㠏嶤嶹㠠㠸幂庽弥徃㤈㤔㤿㥍惗愽峥㦉憷憹懏㦸戬抐拥挘㧸
    嚱 8DA1 㨃揢揻搇摚㩋擀崕嘡龟㪗斆㪽旿晓㫲暒㬢朖㭂枤栀㭘桊梄㭲㭱㭻椉楃牜楤榟榅㮼槖㯝橥橴橱檂㯬檙㯲
    檫檵櫔櫶殁毁毪汵沪㳋洂洆洦涁㳯涤涱渕渘温溆𨧀溻滢滚齿滨滩漤漴㵆𣽁澁澾㵪㵵熷岙㶊瀬㶑灐灔灯灿炉𠌥䏁
    㗱𠻘 8E40 𣻗垾𦻓焾𥟠㙎榢𨯩孴穉𥣡𩓙穥穽𥦬窻窰竂竃燑𦒍䇊竚竝竪䇯咲𥰁笋筕笩𥌎𥳾箢筯莜𥮴𦱿篐萡箒
    8E6A 𥴠㶭𥱥蒒篺 8E70 簵𥳁籄粃𤢂粦晽𤕸糉糇糦籴糳糵 8EA1 繧䔝𦹄絝𦻖璍綉綫焵綳 8EAC 𤁗𦀩緤㴓緵𡟹緥
    𨍭 8EB5 𦄡𦅚繮纒䌫鑬縧罀罁罇礶𦋐駡羗𦍑羣𡙡𠁨䕜𣝦䔃𨌺翺𦒉 8ECE 耈耝 8ED1 耯𪂇𦳃耻耼聡𢜔䦉𦘦𣷣𦛨朥
    肧𨩈脇脚墰𢛶汿𦒘𤾸擧𡒊舘𡡞橓𤩥𤪕䑺舩𠬍𦩒𣵾俹𡓽蓢荢𦬊𤦧𣔰𡝳𣷸芪椛芳䇛 8F40 蕋苐茚𠸖𡞴㛁𣅽𣕚艻苢茘
    𣺋𦶣𦬅𦮗𣗎㶿茝嗬莅䔋𦶥莬 8F58 菓㑾𦻔橗蕚㒖𦹂𢻯葘𥯤葱㷓䓤檧葊𣲵祘 8F6A 𦮖𦹷𦹃蓞 8F6F 莑䒠蒓蓤𥲑䉀
    𥳀䕃蔴嫲𦺙䔧蕳䔖枿蘖 8FA1 𨘥𨘻藁𧂈蘂𡖂𧃍䕫䕪蘨㙈𡢢号𧎚虾蝱𪃸蟮𢰧螱蟚蠏噡虬桖䘏衅衆𧗠𣶹𧗤衞袜䙛袴
    袵揁装睷𧜏覇覊 8FCD 覧覼𨨥觧𧤤𧪽誜瞓釾誐𧩙竩𧬺𣾏䜓𧬸煼謌謟𥐰𥕥謿譌譍誩𤩺讐讛誯𡛟䘕衏貛𧵔𧶏貫㜥𧵓
    賖𧶘𧶽贒贃𡤐賛灜贑𤳉㻐 9040 趩𨀂𡀔𤦊㭼𨆼𧄌竧躭躶軃鋔輙輭𨍥𨐒辥錃𪊟𠩐辳䤪𨧞𨔽𣶻廸𣉢迹𪀔𨚼𨔁𢌥㦀𦻗
    逷𨔼𧪾遡𨕬𨘋邨𨜓郄𨛦邮 906E 酧㫰醩釄粬𨤳𡺉鈎沟鉁鉢𥖹 907B 𨫆𣲛𨬌𥗛 90A1 𠴱錬鍫𨫡𨯫炏嫃𨫢𨫥䥥鉄𨯬
    𨰹𨯿鍳鑛躼閅閦鐦閠濶䊹𢙺𨛘𡉼𣸮䧟氜陻隖䅬隣𦻕懚隶磵𨫠隽双䦡𦲸𠉴𦐐𩂯𩃥𤫑𡤕𣌊霱虂霶䨏䔽䖅𤫩灵孁霛
    90DD 𩇕靗孊𩇫靟鐥僐𣂷𣂼鞉鞟鞱鞾韀韒韠𥑬韮琜𩐳 90F2 韵𩐝𧥺䫑頴頳顋顦㬎𧅵㵑𠘰𤅜 9140 𥜆飊颷飈飇䫿
    𦴧𡛓喰飡飦飬鍸餹𤨩䭲𩡗𩤅駵騌騻騐驘𥜥㛄𩂱𩯕髠髢𩬅髴䰎鬔鬭𨘀倴鬴𦦨㣃𣁽魐魀𩴾婅𡡣鮎𤉋鰂鯿鰌𩹨鷔𩾷𪆒
    𪆫𪃡𪄣𪇟鵾鶃𪄴鸎梈 91A1 鷄𢅛𪆓𪈠𡤻𪈳鴹𪂹𪊴麐麕麞麢䴴麪麯𤍤黁㭠㧥㴝伲㞾𨰫鼂鼈䮖鐤𦶢鼗
    91C0 鼹嚟嚊齅馸𩂋韲葿齢齩竜龎爖䮾𤥵𤦻煷𤧸𤍈𤩑玞𨯚𡣺禟𨥾𨸶鍩鏳𨩄鋬鎁鏋𨥬𤒹爗㻫睲穃烐𤑳𤏸煾𡟯炣𡢾
    𣖙㻇𡢅𥐯𡟸㜢𡛻𡠹㛡𡝴𡣑𥽋㜣𡛀坛𤨥𡏾𡊨 9240 𡏆𡒶蔃𣚦 9245 葕𤦔𧅥𣸱𥕜𣻻𧁒䓴𣛮𩦝𦼦柹㜳㰕㷧塬𡤢栐䁗𣜿
    𤃡𤂋𤄏𦰡哋嚞𦚱嚒𠿟𠮨𠸍鏆𨬓鎜仸儫㠙𤐶亼𠑥𠍿佋侊𥙑婨𠆫𠏋㦙𠌊𠐔㐵伩𠋀𨺳𠉵諚𠈌亘 92A1 働儍侢伃𤨎𣺊佂
    倮偬傁俌俥偘僼 92B3 湶𣖕𣸹𣺿浲𡢄𣺉冨凃𠗠䓝𠒣𠒒𠒑赺𨪜𠜎剙劤𠡳勡 92C9 䙺熌𤎌𠰠𤦬𡃤槑𠸝
    92D2 㻞璙琔瑖玘䮎𤪼𤂍叐㖄爏𤃉喴𠍅响𠯆圝鉝雴鍦埝垍坿㘾壋媙𨩆𡛺𡝯𡜐娬妸銏婾嫏娒𥥆𡧳𡡡𤊕㛵洅瑃娡𥺃
    9340 媁𨯗𠐓鏠璌𡌃焅䥲鐈𨧻鎽㞠尞岞幞幈𡦖𡥼𣫮廍孏𡤃𡤄㜁𡢠㛝𡛾㛓脪𨩇𡶺𣑲𨦨弌弎𡤧𡞫婫𡜻孄蘔𧗽衠恾𢡠
    𢘫忛㺸𢖯𢖾𩂈𦽳懀𠀾𠁆𢘛憙憘恵𢲛𢴇𤛔𩅍 93A1 摱𤙥𢭪㨩𢬢𣑐𩣪𢹸挷𪑛撶挱揑𤧣𢵧护𢲡搻敫楲㯴𣂎𣊭𤦉𣊫唍𣋠
    𡣙𩐿曎𣊉𣆳㫠䆐𥖄𨬢𥖏𡛼𥕛𥐥磮𣄃𡠪𣈴㑤𣈏𣆂𤋉暎𦴤晫䮓昰𧡰𡷫晣𣋒𣋡昞𥡲㣑𣠺𣞼㮙𣞢𣏾瓐㮖枏𤘪梶栞㯄檾㡣
    𣟕𤒇樳橒櫉欅𡤒攑梘橌㯗橺歗𣿀𣲚鎠鋲𨯪𨫋 9440 銉𨀞𨧜鑧涥漋𤧬 9448 𣽿㶏渄𤀼娽渊塇洤硂焻𤌚𤉶烱牐犇犔
    𤞏𤜥兹𤪤𠗫瑺𣻸𣙟𤩊𤤗𥿡㼆㺱𤫟𨰣𣼵悧㻳瓌琼鎇琷䒟𦷪䕑疃㽣𤳙𤴆㽘畕癳𪗆㬙瑨𨫌𤦫𤦎㫻 94A1 㷍𤩎㻿𤧅𤣳釺
    圲鍂𨫣𡡤僟𥈡𥇧睸𣈲眎眏睻𤚗𣞁㩞𤣰琸璛㺿𤪺𤫇䃈𤪖𦆮錇𥖁砞碍碈磒珐祙𧝁𥛣䄎 94CB 蒖禥樭𣻺稺秴䅮𡛦䄲鈵
    秱𠵌𤦌𠊙𣶺𡝮㖗啫㕰㚪𠇔𠰍竢婙𢛵𥪯𥪜娍𠉛磰娪𥯆竾䇹籝籭䈑𥮳𥺼𥺦糍𤧹𡞰粎籼粮檲緜縇緓罎𦉡
    9540 𦅜𧭈綗𥺂䉪𦭵𠤖柖𠁎𣗏埄𦐒𦏸𤥢翝笧𠠬𥫩𥵃笌𥸎駦虅驣樜𣐿㧢𤧷𦖭騟𦖠蒀𧄧𦳑䓪脷䐂胆脉腂𦞴飃𦩂艢艥
    𦩑葓𦶧蘐𧈛媆䅿𡡀嬫𡢡嫤𡣘蚠蜨𣶏蠭𧐢娂 95A1 衮佅袇袿裦襥襍𥚃襔𧞅𧞄𨯵𨯙𨮜𨧹㺭蒣䛵䛏㟲訽訜𩑈彍鈫𤊄旔
    焩烄𡡅鵭貟賩𧷜妚矃姰䍮㛔踪躧𤰉輰轊䋴汘澻𢌡䢛潹溋𡟚鯩㚵𤤯邻 95DA 啱䤆醻鐄𨩋䁢𨫼鐧𨰝𨰻蓥訫閙閧閗閖
    𨴴瑅㻂𤣿𤩂𤏪㻧𣈥随𨻧𨹦𨹥㻌𤧭𤩸𣿮琒瑫㻼靁𩂰 9640 桇䨝𩂓𥟟 9645 鍨𨦉𨰦𨬯𦎾銺嬑譩䤼珹𤈛鞛靱餸𠼦巁𨯅
    𤪲頟𩓚鋶𩗗釥䓀𨭐𤩧𨭤飜𨩅㼀鈪䤥萔餻饍𧬆㷽馛䭯馪驜𨭥𥣈檏騡嫾騯𩣱䮐𩥈馼䮽䮗鍽塲𡌂堢𤦸 96A1 𡓨硄𢜟𣶸
    棅㵽鑘㤧慐𢞁𢥫愇鱏鱓鱻鰵鰐魿鯏𩸭鮟𪇵𪃾鴡䲮𤄄鸘䲰鴌𪆴𪃭𪃳𩤯鶥蒽𦸒𦿟𦮂藼䔳𦶤𦺄𦷰萠藮𦸀𣟗𦁤秢𣖜𣙀䤭
    𤧞㵢鏛銾鍈𠊿碹鉷鑍俤㑀遤𥕝砽硔碶硋𡝗𣇉𤥁㚚佲濚濙 96EE 瀞吔𤆵垻壳垊鴖埗焴㒯𤆬燫𦱀𤾗 96FD 𡞵𨩉
    9740 愌嫎娋䊼𤒈㜬䭻𨧼鎻鎸𡣖𠼝葲𦳀𡐓𤋺𢰦𤏁妔𣶷𦝁綨𦅛𦂤𤦹𤦋𨧺鋥珢㻩璴𨭣𡢟㻡𤪳櫘珳珻㻖𤨾𤪔𡟙𤩦𠎧𡐤
    𤧥瑈𤤖炥𤥶銄珦鍟𠓾錱𨫎𨨖鎆𨯧𥗕䤵𨪂煫 97A1 𤥃𠳿嚤𠘚𠯫𠲸唂秄𡟺緾𡛂𤩐𡡒䔮鐁㜊𨫀𤦭妰𡢿𡢃𧒄媡㛢𣵛㚰鉟
    婹𨪁𡡢鍴㳍𠪴䪖㦊僴㵩㵌𡎜煵䋻𨈘渏𩃤䓫浗𧹏灧沯㳖𣿭𣸭渂漌㵯𠏵畑㚼㓈䚀㻚䡱姄鉮䤾轁𨰜𦯀堒埈㛖𡑒烾𤍢𤩱
    𢿣𡊰𢎽梹楧𡎘𣓥𧯴𣛟𨪃𣟖𣏺𤲟樚𣚭𦲷萾䓟䓎 9840 𦴦𦵑𦲂𦿞漗𧄉茽𡜺菭𦲀𧁓𡟛妉媂𡞳婡婱𡤅𤇼㜭姯𡜼㛇熎鎐暚
    𤊥婮娫𤊓樫𣻹𧜶𤑛𤋊焝𤉙𨧡侰𦴨峂𤓎𧹍𤎽樌𤉖𡌄炦焳𤏩㶥泟勇𤩏繥姫崯㷳彜𤩝𡟟綤萦 98A1 咅𣫺𣌀𠈔坾𠣕𠘙㿥
    𡾞𪊶瀃𩅛嵰玏糓𨩙𩐠俈翧狍猐𧫴猸猹𥛶獁獈㺩𧬘遬燵𤣲珡臶㻊県㻑沢国琙琞琟㻢㻰㻴㻺瓓㼎㽓畂畭畲疍㽼痈痜
    㿀癍㿗癴㿜発𤽜熈嘣覀塩䀝睃䀹条䁅㗛瞘䁪䁯属瞾矋売砘点砜䂨砹硇硑硦葈𥔵礳栃礲䄃 9940 䄉禑禙辻稆込䅧
    窑䆲窼艹䇄竏竛䇏両筢筬筻簒簛䉠䉺类粜䊌粸䊔糭输烀𠳏総緔緐緽羮羴犟䎗耠耥笹耮耱联㷌垴炠肷胩䏭脌猪脎
    脒畠脔䐁㬹腖腙腚 99A1 䐓堺腼膄䐥膓䐭膥埯臁臤艔䒏芦艶苊苘苿䒰荗险榊萅烵葤惣蒈䔄蒾蓡蓸蔐蔸蕒䔻蕯蕰
    藠䕷虲蚒蚲蛯际螋䘆䘗袮裿褤襇覑𧥧訩訸誔誴豑賔賲贜䞘塟跃䟭仮踺嗘坔蹱嗵躰䠷軎転軤軭軲辷迁迊迌逳駄䢭
    飠鈓䤞鈨鉘鉫銱銮銿 9A40 鋣鋫鋳鋴鋽鍃鎄鎭䥅䥑麿鐗匁鐝鐭鐾䥪鑔鑹锭関䦧间阳䧥枠䨤靀䨵鞲韂噔䫤惨颹䬙
    飱塄餎餙冴餜餷饂饝饢䭰駅䮝騼鬏窃魩鮁鯝鯱鯴䱭鰠㝯𡯂鵉鰺 9AA1 黾噐鶓鶽鷀鷼银辶鹻麬麱麽黆铜黢黱黸竈
    齄𠂔𠊷𠎠椚铃妬𠓗塀铁㞹𠗕𠘕𠙶𡚺块煳𠫂𠫍𠮿呪吆𠯋咞𠯻𠰻𠱓𠱥𠱼惧𠲍噺𠲵𠳝𠳭𠵯𠶲𠷈楕鰯螥𠸄𠸎𠻗𠾐𠼭𠹳尠
    𠾼帋𡁜𡁏𡁶朞𡁻𡂈𡂖㙇𡂿𡃓𡄯𡄻卤蒭𡋣𡍵𡌶讁𡕷𡘙𡟃𡟇乸炻𡠭𡥪 9B40 𡨭𡩅𡰪𡱰𡲬𡻈拃𡻕𡼕熘桕𢁅槩㛈𢉼𢏗𢏺
    𢜪𢡱𢥏苽𢥧𢦓𢫕覥𢫨辠𢬎鞸𢬿顇骽𢱌 9B62 𢲈𢲷𥯨𢴈𢴒𢶷𢶕𢹂𢽴𢿌𣀳𣁦𣌟𣏞徱晈暿𧩹𣕧𣗳 9B77 𤦺
    9B79 𣘚𣜖 9B7C 𠍆墵朎 9BA1 椘𣪧𧙗𥿢𣸑𣺹𧗾𢂚䣐䪸𤄙𨪚𤋮𤌍𤀻𤌴𤎖𤩅𠗊凒𠘑妟𡺨㮾𣳿𤐄𤓖垈𤙴㦛𤜯𨗨𩧉㝢
    𢇃譞𨭎 9BC7 𤠒𤣻𤨕爉𤫀𠱸奥𤺥𤾆𠝹軚𥀬劏圿煱𥊙𥐙𣽊𤪧喼𥑆𥑮𦭒 9BDF 㑳𥔿𧘲𥕞䜘𥕢𥕦𥟇𤤿𥡝偦㓻𣏌
    9BED 𥤃䝼𨥈𥪮𥮉𥰆𡶐垡煑 9BF7 𦄂𧰒遖𦆲𤾚譢𦐂𦑊 9C40 嵛𦯷 9C43 𦒄𡤜諪𤧶𦒈𣿯𦔒䯀𦖿𦚵𢜛鑥𥟡憕娧晉
    9C54 嚹𤔡𦛼乪𤤴陖涏𦲽㘘襷𦞙𦡮𦐑𦡞 9C63 𦣇筂𩃀𠨑𦤦 9C69 𦤹穅 9C6C 𦧺騦𦨭㙟𦑩𠀡禃𦨴𦭛崬𣔙
    9C78 𦮝䛐𦲤画补𦶮墶 9CA1 㜜𢖍𧁋𧇍㱔𧊀𧊅銁𢅺𧊋錰𧋦𤧐氹钟𧑐𠻸蠧裵𢤦𨑳𡞱溸𤨪𡠠㦤㚹 9CBE 䔿暶𩲭𩢤襃
    𧟌𧡘囖䃟𡘊㦡𣜯𨃨𡏅熭荦𧧝𩆨 9CD1 䲷𧂯𨦫𧧽𧨊𧬋𧵦𤅺筃祾𨀉澵𪋟樃𨌘厢𦸇鎿栶靝𨅯𨀣𦦵𡏭𣈯𨁈嶅𨰰𨂃圕頣𨥉
    嶫𤦈斾槕叒𤪥𣾁㰑朶𨂐𨃴𨄮𡾡𨅏 9D40 𨆉𨆯𨈚𨌆𨌯𨎊㗊𨑨𨚪䣺揦𨥖砈鉕𨦸䏲𨧧䏟𨧨𨭆𨯔姸𨰉 9D58 𨿅𩃬
    9D5B 𩄐𩄼㷷𩅞𤫊运犏嚋𩓧𩗩𩖰𩖸𩜲𩣑𩥉𩥪𩧃𩨨𩬎𩵚𩶛纟𩻸𩼣䲤镇𪊓熢𪋿䶑递𪗋䶜𠲜达嗁 9DA1 辺𢒰边𤪓䔉繿
    潖檱仪㓤𨬬𧢝㜺躀𡟵𨀤𨭬𨮙𧨾𦚯㷫𧙕𣲷𥘵𥥖亚𥺁𦉘嚿𠹭踎孭𣺈𤲞揞 9DC5 𡟶𡡻攰嘭𥱊吚𥌑㷆𩶘䱽嘢嘞罉𥻘奵𣵀
    蝰东𠿪𠵉𣚺脗鵞贘瘻鱅癎瞹鍅吲腈苷嘥脲萘肽嗪祢噃吖𠺝㗎嘅嗱曱𨋢㘭甴嗰喺咗啲𠱁𠲖廐𥅈𠹶𢱢
    9E40 𠺢麫絚嗞𡁵抝靭咔賍燶酶揼掹揾啩𢭃鱲𢺳冚㓟𠶧冧呍唞唓癦踭𦢊疱肶蠄螆裇膶萜𡃁䓬猄𤜆宐茋𦢓噻𢛴𧴯
    𤆣𧵳𦻐𧊶酰𡇙鈈𣳼𪚩𠺬𠻹牦𡲢䝎𤿂𧿹𠿫䃺 9EA1 鱝攟𢶠䣳𤟠𩵼𠿬𠸊 9EAA 𧖣𠿭 9EAD 𦁈𡆇熣纎鵐业丄㕷嬍沲卧
    㚬㧜卽㚥𤘘墚𤭮舭呋垪𥪕𠥹 9EC5 㩒𢑥獴𩺬䴉鯭𣳾𩼰䱛𤾩𩖞𩿞葜𣶶𧊲𦞳𣜠挮紥𣻷𣸬㨪逈勌㹴㙺䗩𠒎癀嫰𠺶硺𧼮
    墧䂿噼鮋嵴癔𪐴麅䳡 9EF0 㟻愙𣃚𤏲 9EF5 噝𡊩垧𤥣𩸆刴𧂮㖭 9EFE 鵼 9F40 籖鬹埞𡝬屓擓𩓐𦌵𧅤蚭𠴨𦴢𤫢𠵱
    9F4F 凾𡼏嶎霃𡷑麁遌笟鬂峑箣扨挵髿篏鬪籾 9F61 籂粆鰕篼鬉 9F67 鰛𤤾齚啳寃俽麘俲剠㸆勑坧偖妷帒韈鶫
    轜呩鞴饀鞺匬愰 9FA1 椬叚鰊鴂䰻陁榀傦畆𡝭駚剳 9FAE 酙隁酜 9FB2 酑𨺗捿𦴣櫊嘑醎畺抅𠏼獏籰𥰡𣳽
    9FC1 𤤙盖鮝个𠳔莾衂 9FC9 届槀 9FCC 坺刟巵从氱𠇲伹咜哚劚趂㗾 9FD9 㗳 9FDB 歒酼龥鮗頮颴骺麨麄煺笔
    9FE7 毺蠘罸 9FEB 嘠𪙊蹷齓 9FF0 跔蹏鸜踁抂𨍽踨蹵竓𤩷稾磘泪詧瘇 A040 𨩚鼦泎蟖痃𪊲硓咢贌狢獱謭猂瓱
    賫𤪻蘯徺袠䒷 A055 𡠻𦸅 A058 詾𢔛 A05B 惽癧髗鵄鍮鮏蟵 A064 賷猬霡鮰㗖犲䰇籑饊𦅙慙䰄麖慽
    A073 坟慯抦戹 A078 㩜懢厪𣏵捤栂㗒 A0A1 嵗𨯂迚𨸹 A0A6 僙𡵆礆匲阸𠼻䁥 A0AE 矾 A0B0 糂𥼚糚稭聦聣絍
    甅瓲覔舚朌聢𧒆聛瓰脃眤覉𦟌畓𦻑螩蟎臈螌詉貭譃眫瓸蓚㘵榲趦 A0D4 覩 A0D6 涹蟁𤀑瓧㷛煶悤憜㳑
    A0E0 恷 A0E2 罱𨬭 A0E5 惩䭾删㰘𣳇𥻗𧙖𥔱𡥄𡋾𩤃𦷜𧂭峁𦆭𨨏𣙷𠃮𦡆𤼎䕢嬟𦍌齐麦𦉫 C6A1 ①②③④⑤⑥⑦
    ⑧⑨⑩⑴⑵⑶⑷⑸⑹⑺⑻⑼⑽ⅰⅱⅲⅳⅴⅵⅶⅷⅸⅹ丶丿亅亠冂冖冫勹匸卩厶夊宀巛⼳广 C6D0 彐彡攴
    C6D4 疒 C6D6 辵 C6D8 ¨ˆヽヾゝゞ C6E0 々〆〇ー［］✽ぁあぃいぅうぇえぉおかがきぎくぐけげこごさざ
    しじ C740 すずせぜそぞただちぢっつづてでとどなにぬねのはばぱひびぴふぶぷへべぺほぼぽまみむめもゃ
    やゅゆょよらりるれろゎわゐゑをんァアィイ C7A1 ゥウェエォオカガキギクグケゲコゴサザシジスズセゼソ
    ゾタダチヂッツヅテデトドナニヌネノハバパヒビピフブプヘベペホボポマミムメモャヤュユョヨラリルレロ
    ヮワヰヱヲンヴヵヶАБВГДЕЁЖЗИЙК C840 ЛМНОПРСТУФХЦЧШЩЪЫЬЭЮЯабв
    гдеёжзийклмнопрстуфхцчшщъыьэюя⇧↸↹㇏𠃌乚𠂊刂䒑 C8A1 龰冈龱𧘇
    C8CD ￢￤＇＂㈱№℡゛゜⺀⺄⺆⺇⺈⺊⺌⺍⺕⺜⺝⺥⺧⺪⺬⺮⺶⺼⺾⻆⻊⻌⻍⻏⻖⻗⻞⻣ C8F5 ʃɐɛɔɵœøŋ
    ʊɪ F9D6 碁銹裏墻恒粧嫺╔╦╗╠╬╣╚╩╝╒╤╕╞╪╡╘╧╛╓╥╖╟╫╢╙╨╜║═╭╮╰╯￭
    FA40 𠕇鋛𠗟𣿅蕌䊵珯况㙉𤥂𨧤鍄𡧛苮𣳈砼杄拟𤤳𨦪𠊠𦮳𡌅侫𢓭倈𦴩𧪄𣘀𤪱𢔓 FA60 𠍾徤𠎀𠍇滛𠐟
    FA67 儁㑺儎顬㝃萖𤦤𠒇兠𣎴兪𠯿𢃼𠋥𢔰𠖎𣈳𡦃宂蝽𠖳𣲙冲冸 FAA1 鴴凉减凑㳜凓𤪦决凢卂凭菍椾𣜭彻刋刦刼
    劵剗劔効勅簕蕂勠蘍𦬓 FABE 𨫞啉滙𣾀𠥔𣿬匳 FAC6 𠯢泋𡜦栛珕恊㺪㣌𡛨燝䒢卭却𨚫卾 FAD6 𡖖𡘓矦厓𨪛厠厫
    厮玧𥝲㽙玜叁叅汉义埾叙㪫𠮏叠𣿫𢶣叶𠱷吓灹唫晗浛呭𦭓𠵴啝咏咤䞦𡜍𠻝㶴𠵍 FB40 𨦼𢚘啇䳭启琗喆喩
    FB49 𡣗𤀺䕒𤐵暳𡂴嘷曍𣊊暤暭噍噏磱囱鞇叾圀囯园𨭦㘣𡉏坆𤆥汮炋坂㚱𦱾埦𡐖堃𡑔𤍣堦𤯵塜墪㕡壠壜𡈼壻寿
    坃𪅐𤉸鏓㖡够梦㛃湙 FBA1 𡘾娤啓𡚒蔅姉𠵎𦲁𦴪𡟜姙𡟻𡞲𦶦浱𡠨𡛕姹𦹅媫婣㛦𤦩 FBB9 㜈媖瑥嫓𦾡𢕔㶅𡤑㜲𡚸
    広勐孶斈孼𧨎䀄䡝𠈄寕慠𡨴𥧌𠖥寳宝䴐尅𡭄尓珎尔𡲥𦬨屉䣝岅峩峯嶋𡷹𡸷崐崘嵆𡺤岺巗苼㠭𤤁𢁉𢅳芇㠶㯂帮檊
    FBF4 幺𤒼𠳓厦亷 FBFA 厨𡝱帉廴𨒂 FC40 廹廻㢠廼栾鐛弍𠇁弢㫞䢮𡌺强𦢈𢏐 FC50 𢑱彣鞽𦹮彲鍀𨨶徧嶶㵟𥉐
    𡽪𧃸𢙨釖𠊞𨨩怱暅𡡷㥣㷇㘹垐𢞴祱㹀悞 FC6D 悳𤦂𤦏𧩓璤僡媠慤萤慂慈𦻒憁凴𠙖憇宪𣾷 FCA1 𢡟懓𨮝𩥝懐㤲𢦀
    𢣁怣慜攞掋𠄘担𡝰拕𢸍捬𤧟㨗搸揸𡎎𡟼 FCBA 澊𢸶頔𤂌𥜝擡擥鑻㩦携㩗敍漖𤨨𤨣斅敭敟𣁾斵𤥀䬷旑䃘𡠩无旣忟
    𣐀昘𣇷𣇸晄𣆤𣆥晋𠹵晧𥇦晳 FCE3 𡸽𣈱𨗴𣇈𥌓矅𢣷馤朂𤎜𤨡㬫槺𣟂 FCF2 杧杢𤇍𩃭柗䓩栢湐鈼栁𣏦𦶠桝
    FD40 𣑯槡樋𨫟楳棃𣗍椁椀㴲㨁𣘼㮀枬楡𨩊䋼椶榘㮡𠏉荣傐槹𣙙𢄪橅𣜃檝㯳枱櫈𩆜㰍欝𠤣惞欵歴𢟍溵𣫛𠎵𡥘㝀
    吡𣭚毡𣻼毜氷𢒋𤣱𦭑汚舦汹𣶼䓅𣶽𤆤𤤌𤤀 FDA1 𣳉㛥㳫𠴲鮃𣇹𢒑羏样𦴥𦶡𦷫涖浜湼漄𤥿𤂅𦹲蔳𦽴凇
    FDB9 萮𨬡 FDBC 𣸯瑓𣾂秌湏媑𣁋濸㜍澝𣸰滺𡒗𤀽䕕鏰潄潜㵎潴𩅰㴻澟𤅄濓𤂑𤅕𤀹𣿰𣾴𤄿凟𤅖𤅗𤅀𦇝灋灾炧炁
    烌烕烖烟䄄㷨熴熖𤉷焫煅媈煊 FDF2 岜𤍥煏鍢𤋁焬𤑚𤨧𤨢熺𨯨炽爎 FE40 鑂爕夑鑃爤鍁𥘅爮牀𤥴梽牕牗㹕𣁄栍
    漽犂 FE53 猫𤠣𨠫䣭𨠄猨献珏玪𠰺𦨮珉瑉𤇢𡛧𤨤昣㛅𤦷𤦍𤧻珷琕椃𤨦琹𠗃㻗 FE70 𢢭瑠𨺲瑇珤瑶莹瑬㜰瑴鏱樬
    璂䥓𤪌 FEA1 𤅟𤩹𨮏孆𨰃𡢞瓈𡦈甎 FEAB 甞𨻙𡩋寗𨺬鎅畍畊畧畮𤾂㼄𤴓疎瑝疞疴瘂瘬癑癏癯癶𦏵皐臯㟸𦤑𦤎皡
    皥皷盌𦾟葢𥂝𥅽𡸜眞眦着撯𥈠睘𣊬瞯𨥤𨥨𡛁矴 FEDE 𡍶𤨒棊碯磇磓隥礮𥗠磗礴碱𧘌辸袄𨬫𦂃𢘜禆褀椂禀𥡗禝𧬹
    礼禩渪𧄦㺨秆𩄍秔"

end SourceConventions.Grid
