import Logline.Unicode.Table
/-!
Treatment of characters in internationalized domain names: letters become small, compatible forms
become one, and characters without a meaning in a name are left out or refused.
-/
namespace Logline.Unicode

/-- How the characters from one entry of the table up to the next are treated. -/
inductive Treatment where
  | kept
  | ignored
  | refused
  /-- Each becomes the same text. -/
  | text (cs : List Char)
  /-- Each becomes the character as far from `target` as it is from the entry. -/
  | shifted (target : Nat)
  /-- Capital and small letters in turn: each capital becomes the small letter behind it. -/
  | paired
  deriving DecidableEq, Repr

namespace Treatment

/-- Entries with one letter: `K` keeps, `I` ignores, `X` refuses, `T` is followed by the code points
of a text with points in between, `S` by the target of a shift, and `A` marks pairs. -/
def lines : List String :=
  ["0K 41S61 5bK 80X a0T20 a1K a8T20.308 a9K aaT61 abK adI aeK afT20.304 b0K b2S32 b4T20.301",
   "b5T3bc b6K b8T20.327 b9T31 baT6f bbK bcT31.2044.34 bdT31.2044.32 beT33.2044.34 bfK c0Se0 d7K",
   "d8Sf8 dfK 100A 130T69.307 131K 132T69.6a 134A 138K 139A 13fT6c.b7 141A 149T2bc.6e 14aA 178Tff",
   "179A 17fT73 180K 181T253 182A 186T254 187T188 188K 189S256 18bT18c 18cK 18eT1dd 18fT259",
   "190T25b 191T192 192K 193T260 194T263 195K 196T269 197T268 198T199 199K 19cT26f 19dT272 19eK",
   "19fT275 1a0A 1a6T280 1a7T1a8 1a8K 1a9T283 1aaK 1acT1ad 1adK 1aeT288 1afT1b0 1b0K 1b1S28a 1b3A",
   "1b7T292 1b8T1b9 1b9K 1bcT1bd 1bdK 1c4T64.17e 1c7T6c.6a 1caT6e.6a 1cdA 1ddK 1deA 1f0K 1f1T64.7a",
   "1f4T1f5 1f5K 1f6T195 1f7T1bf 1f8A 220T19e 221K 222A 234K 23aT2c65 23bT23c 23cK 23dT19a",
   "23eT2c66 23fK 241T242 242K 243T180 244T289 245T28c 246A 250K 2b0T68 2b1T266 2b2T6a 2b3T72",
   "2b4T279 2b5T27b 2b6T281 2b7T77 2b8T79 2b9K 2d8T20.306 2d9T20.307 2daT20.30a 2dbT20.328",
   "2dcT20.303 2ddT20.30b 2deK 2e0T263 2e1T6c 2e2T73 2e3T78 2e4T295 2e5K 340S300 342K 343T313",
   "344T308.301 345T3b9 346K 34fI 350K 370A 374T2b9 375K 376T377 377K 378X 37aT20.3b9 37bK 37eT3b",
   "37fT3f3 380X 384T20.301 385T20.308.301 386T3ac 387Tb7 388S3ad 38bX 38cT3cc 38dX 38eS3cd 390K",
   "391S3b1 3a2X 3a3S3c3 3acK 3cfT3d7 3d0T3b2 3d1T3b8 3d2T3c5 3d3T3cd 3d4T3cb 3d5T3c6 3d6T3c0 3d7K",
   "3d8A 3f0T3ba 3f1T3c1 3f2T3c3 3f3K 3f4T3b8 3f5T3b5 3f6K 3f7T3f8 3f8K 3f9T3c3 3faT3fb 3fbK",
   "3fdS37b 400S450 410S430 430K 460A 482K 48aA 4c0T4cf 4c1A 4cfK 4d0A 530X 531S561 557X 559K",
   "587T565.582 588K 58bX 58dK 590X 591K 5c8X 5d0K 5ebX 5efK 5f5X 606K 61cX 61dK 675T627.674",
   "676T648.674 677T6c7.674 678T64a.674 679K 6ddX 6deK 70eX 710K 74bX 74dK 7b2X 7c0K 7fbX 7fdK",
   "82eX 830K 83fX 840K 85cX 85eK 85fX 860K 86bX 870K 890X 897K 8e2X 8e3K 958T915.93c 959T916.93c",
   "95aT917.93c 95bT91c.93c 95cT921.93c 95dT922.93c 95eT92b.93c 95fT92f.93c 960K 984X 985K 98dX",
   "98fK 991X 993K 9a9X 9aaK 9b1X 9b2K 9b3X 9b6K 9baX 9bcK 9c5X 9c7K 9c9X 9cbK 9cfX 9d7K 9d8X",
   "9dcT9a1.9bc 9ddT9a2.9bc 9deX 9dfT9af.9bc 9e0K 9e4X 9e6K 9ffX a01K a04X a05K a0bX a0fK a11X",
   "a13K a29X a2aK a31X a32K a33Ta32.a3c a34X a35K a36Ta38.a3c a37X a38K a3aX a3cK a3dX a3eK a43X",
   "a47K a49X a4bK a4eX a51K a52X a59Ta16.a3c a5aTa17.a3c a5bTa1c.a3c a5cK a5dX a5eTa2b.a3c a5fX",
   "a66K a77X a81K a84X a85K a8eX a8fK a92X a93K aa9X aaaK ab1X ab2K ab4X ab5K abaX abcK ac6X ac7K",
   "acaX acbK aceX ad0K ad1X ae0K ae4X ae6K af2X af9K b00X b01K b04X b05K b0dX b0fK b11X b13K b29X",
   "b2aK b31X b32K b34X b35K b3aX b3cK b45X b47K b49X b4bK b4eX b55K b58X b5cTb21.b3c b5dTb22.b3c",
   "b5eX b5fK b64X b66K b78X b82K b84X b85K b8bX b8eK b91X b92K b96X b99K b9bX b9cK b9dX b9eK ba0X",
   "ba3K ba5X ba8K babX baeK bbaX bbeK bc3X bc6K bc9X bcaK bceX bd0K bd1X bd7K bd8X be6K bfbX c00K",
   "c0dX c0eK c11X c12K c29X c2aK c3aX c3cK c45X c46K c49X c4aK c4eX c55K c57X c58K c5bX c5cK c5eX",
   "c60K c64X c66K c70X c77K c8dX c8eK c91X c92K ca9X caaK cb4X cb5K cbaX cbcK cc5X cc6K cc9X ccaK",
   "cceX cd5K cd7X cdcK cdfX ce0K ce4X ce6K cf0X cf1K cf4X d00K d0dX d0eK d11X d12K d45X d46K d49X",
   "d4aK d50X d54K d64X d66K d80X d81K d84X d85K d97X d9aK db2X db3K dbcX dbdK dbeX dc0K dc7X dcaK",
   "dcbX dcfK dd5X dd6K dd7X dd8K de0X de6K df0X df2K df5X e01K e33Te4d.e32 e34K e3bX e3fK e5cX",
   "e81K e83X e84K e85X e86K e8bX e8cK ea4X ea5K ea6X ea7K eb3Tecd.eb2 eb4K ebeX ec0K ec5X ec6K",
   "ec7X ec8K ecfX ed0K edaX edcTeab.e99 eddTeab.ea1 edeK ee0X f00K f0cTf0b f0dK f43Tf42.fb7 f44K",
   "f48X f49K f4dTf4c.fb7 f4eK f52Tf51.fb7 f53K f57Tf56.fb7 f58K f5cTf5b.fb7 f5dK f69Tf40.fb5 f6aK",
   "f6dX f71K f73Tf71.f72 f74K f75Tf71.f74 f76Tfb2.f80 f77Tfb2.f71.f80 f78Tfb3.f80 f79Tfb3.f71.f80",
   "f7aK f81Tf71.f80 f82K f93Tf92.fb7 f94K f98X f99K f9dTf9c.fb7 f9eK fa2Tfa1.fb7 fa3K fa7Tfa6.fb7",
   "fa8K facTfab.fb7 fadK fb9Tf90.fb5 fbaK fbdX fbeK fcdX fceK fdbX 1000K 10a0S2d00 10c6X",
   "10c7T2d27 10c8X 10cdT2d2d 10ceX 10d0K 10fcT10dc 10fdK 115fI 1161K 1249X 124aK 124eX 1250K",
   "1257X 1258K 1259X 125aK 125eX 1260K 1289X 128aK 128eX 1290K 12b1X 12b2K 12b6X 12b8K 12bfX",
   "12c0K 12c1X 12c2K 12c6X 12c8K 12d7X 12d8K 1311X 1312K 1316X 1318K 135bX 135dK 137dX 1380K",
   "139aX 13a0K 13f6X 13f8S13f0 13feX 1400K 1680X 1681K 169dX 16a0K 16f9X 1700K 1716X 171fK 1737X",
   "1740K 1754X 1760K 176dX 176eK 1771X 1772K 1774X 1780K 17b4I 17b6K 17deX 17e0K 17eaX 17f0K",
   "17faX 1800K 180bI 1810K 181aX 1820K 1879X 1880K 18abX 18b0K 18f6X 1900K 191fX 1920K 192cX",
   "1930K 193cX 1940K 1941X 1944K 196eX 1970K 1975X 1980K 19acX 19b0K 19caX 19d0K 19dbX 19deK",
   "1a1cX 1a1eK 1a5fX 1a60K 1a7dX 1a7fK 1a8aX 1a90K 1a9aX 1aa0K 1aaeX 1ab0K 1adeX 1ae0K 1aecX",
   "1b00K 1b4dX 1b4eK 1bf4X 1bfcK 1c38X 1c3bK 1c4aX 1c4dK 1c80T432 1c81T434 1c82T43e 1c83S441",
   "1c85T442 1c86T44a 1c87T463 1c88Ta64b 1c89T1c8a 1c8aK 1c8bX 1c90S10d0 1cbbX 1cbdS10fd 1cc0K",
   "1cc8X 1cd0K 1cfbX 1d00K 1d2cT61 1d2dTe6 1d2eT62 1d2fK 1d30S64 1d32T1dd 1d33S67 1d3bK 1d3cT6f",
   "1d3dT223 1d3eT70 1d3fT72 1d40S74 1d42T77 1d43T61 1d44S250 1d46T1d02 1d47T62 1d48S64 1d4aT259",
   "1d4bS25b 1d4dT67 1d4eK 1d4fT6b 1d50T6d 1d51T14b 1d52T6f 1d53T254 1d54S1d16 1d56T70 1d57S74",
   "1d59T1d1d 1d5aT26f 1d5bT76 1d5cT1d25 1d5dS3b2 1d60S3c6 1d62T69 1d63T72 1d64S75 1d66S3b2",
   "1d68T3c1 1d69S3c6 1d6bK 1d78T43d 1d79K 1d9bT252 1d9cT63 1d9dT255 1d9eTf0 1d9fT25c 1da0T66",
   "1da1T25f 1da2T261 1da3T265 1da4S268 1da7T1d7b 1da8T29d 1da9T26d 1daaT1d85 1dabT29f 1dacT271",
   "1dadT270 1daeS272 1db2T278 1db3S282 1db5T1ab 1db6S289 1db8T1d1c 1db9S28b 1dbbT7a 1dbcS290",
   "1dbfT3b8 1dc0K 1e00A 1e96K 1e9aT61.2be 1e9bT1e61 1e9cK 1e9eTdf 1e9fK 1ea0A 1f00K 1f08S1f00",
   "1f10K 1f16X 1f18S1f10 1f1eX 1f20K 1f28S1f20 1f30K 1f38S1f30 1f40K 1f46X 1f48S1f40 1f4eX 1f50K",
   "1f58X 1f59T1f51 1f5aX 1f5bT1f53 1f5cX 1f5dT1f55 1f5eX 1f5fT1f57 1f60K 1f68S1f60 1f70K 1f71T3ac",
   "1f72K 1f73T3ad 1f74K 1f75T3ae 1f76K 1f77T3af 1f78K 1f79T3cc 1f7aK 1f7bT3cd 1f7cK 1f7dT3ce",
   "1f7eX 1f80T1f00.3b9 1f81T1f01.3b9 1f82T1f02.3b9 1f83T1f03.3b9 1f84T1f04.3b9 1f85T1f05.3b9",
   "1f86T1f06.3b9 1f87T1f07.3b9 1f88T1f00.3b9 1f89T1f01.3b9 1f8aT1f02.3b9 1f8bT1f03.3b9",
   "1f8cT1f04.3b9 1f8dT1f05.3b9 1f8eT1f06.3b9 1f8fT1f07.3b9 1f90T1f20.3b9 1f91T1f21.3b9",
   "1f92T1f22.3b9 1f93T1f23.3b9 1f94T1f24.3b9 1f95T1f25.3b9 1f96T1f26.3b9 1f97T1f27.3b9",
   "1f98T1f20.3b9 1f99T1f21.3b9 1f9aT1f22.3b9 1f9bT1f23.3b9 1f9cT1f24.3b9 1f9dT1f25.3b9",
   "1f9eT1f26.3b9 1f9fT1f27.3b9 1fa0T1f60.3b9 1fa1T1f61.3b9 1fa2T1f62.3b9 1fa3T1f63.3b9",
   "1fa4T1f64.3b9 1fa5T1f65.3b9 1fa6T1f66.3b9 1fa7T1f67.3b9 1fa8T1f60.3b9 1fa9T1f61.3b9",
   "1faaT1f62.3b9 1fabT1f63.3b9 1facT1f64.3b9 1fadT1f65.3b9 1faeT1f66.3b9 1fafT1f67.3b9 1fb0K",
   "1fb2T1f70.3b9 1fb3T3b1.3b9 1fb4T3ac.3b9 1fb5X 1fb6K 1fb7T1fb6.3b9 1fb8S1fb0 1fbaT1f70 1fbbT3ac",
   "1fbcT3b1.3b9 1fbdT20.313 1fbeT3b9 1fbfT20.313 1fc0T20.342 1fc1T20.308.342 1fc2T1f74.3b9",
   "1fc3T3b7.3b9 1fc4T3ae.3b9 1fc5X 1fc6K 1fc7T1fc6.3b9 1fc8T1f72 1fc9T3ad 1fcaT1f74 1fcbT3ae",
   "1fccT3b7.3b9 1fcdT20.313.300 1fceT20.313.301 1fcfT20.313.342 1fd0K 1fd3T390 1fd4X 1fd6K",
   "1fd8S1fd0 1fdaT1f76 1fdbT3af 1fdcX 1fddT20.314.300 1fdeT20.314.301 1fdfT20.314.342 1fe0K",
   "1fe3T3b0 1fe4K 1fe8S1fe0 1feaT1f7a 1febT3cd 1fecT1fe5 1fedT20.308.300 1feeT20.308.301 1fefT60",
   "1ff0X 1ff2T1f7c.3b9 1ff3T3c9.3b9 1ff4T3ce.3b9 1ff5X 1ff6K 1ff7T1ff6.3b9 1ff8T1f78 1ff9T3cc",
   "1ffaT1f7c 1ffbT3ce 1ffcT3c9.3b9 1ffdT20.301 1ffeT20.314 1fffX 2000T20 200bI 200cK 200eX 2010K",
   "2011T2010 2012K 2017T20.333 2018K 2024X 2027K 2028X 202fT20 2030K 2033T2032.2032",
   "2034T2032.2032.2032 2035K 2036T2035.2035 2037T2035.2035.2035 2038K 203cT21.21 203dK",
   "203eT20.305 203fK 2047T3f.3f 2048T3f.21 2049T21.3f 204aK 2057T2032.2032.2032.2032 2058K",
   "205fT20 2060I 2065X 206aI 2070T30 2071T69 2072X 2074S34 207aT2b 207bT2212 207cT3d 207dS28",
   "207fT6e 2080S30 208aT2b 208bT2212 208cT3d 208dS28 208fX 2090T61 2091T65 2092T6f 2093T78",
   "2094T259 2095T68 2096S6b 209aT70 209bS73 209dX 20a0K 20a8T72.73 20a9K 20c2X 20d0K 20f1X",
   "2100T61.2f.63 2101T61.2f.73 2102T63 2103Tb0.63 2104K 2105T63.2f.6f 2106T63.2f.75 2107T25b",
   "2108K 2109Tb0.66 210aS67 210cT68 210fT127 2110T69 2112T6c 2114K 2115T6e 2116T6e.6f 2117K",
   "2119S70 211cT72 211eK 2120T73.6d 2121T74.65.6c 2122T74.6d 2123K 2124T7a 2125K 2126T3c9 2127K",
   "2128T7a 2129K 212aT6b 212bTe5 212cS62 212eK 212fT65 2131T66 2132T214e 2133T6d 2134T6f 2135S5d0",
   "2139T69 213aK 213bT66.61.78 213cT3c0 213dT3b3 213fT3c0 2140T2211 2141K 2145T64 2147T65 2148S69",
   "214aK 2150T31.2044.37 2151T31.2044.39 2152T31.2044.31.30 2153T31.2044.33 2154T32.2044.33",
   "2155T31.2044.35 2156T32.2044.35 2157T33.2044.35 2158T34.2044.35 2159T31.2044.36",
   "215aT35.2044.36 215bT31.2044.38 215cT33.2044.38 215dT35.2044.38 215eT37.2044.38 215fT31.2044",
   "2160T69 2161T69.69 2162T69.69.69 2163T69.76 2164T76 2165T76.69 2166T76.69.69 2167T76.69.69.69",
   "2168T69.78 2169T78 216aT78.69 216bT78.69.69 216cT6c 216dS63 216fT6d 2170T69 2171T69.69",
   "2172T69.69.69 2173T69.76 2174T76 2175T76.69 2176T76.69.69 2177T76.69.69.69 2178T69.78 2179T78",
   "217aT78.69 217bT78.69.69 217cT6c 217dS63 217fT6d 2180K 2183T2184 2184K 2189T30.2044.33 218aK",
   "218cX 2190K 222cT222b.222b 222dT222b.222b.222b 222eK 222fT222e.222e 2230T222e.222e.222e 2231K",
   "2329S3008 232bK 242aX 2440K 244bX 2460S31 2469T31.30 246aT31.31 246bT31.32 246cT31.33",
   "246dT31.34 246eT31.35 246fT31.36 2470T31.37 2471T31.38 2472T31.39 2473T32.30 2474T28.31.29",
   "2475T28.32.29 2476T28.33.29 2477T28.34.29 2478T28.35.29 2479T28.36.29 247aT28.37.29",
   "247bT28.38.29 247cT28.39.29 247dT28.31.30.29 247eT28.31.31.29 247fT28.31.32.29",
   "2480T28.31.33.29 2481T28.31.34.29 2482T28.31.35.29 2483T28.31.36.29 2484T28.31.37.29",
   "2485T28.31.38.29 2486T28.31.39.29 2487T28.32.30.29 2488X 249cT28.61.29 249dT28.62.29",
   "249eT28.63.29 249fT28.64.29 24a0T28.65.29 24a1T28.66.29 24a2T28.67.29 24a3T28.68.29",
   "24a4T28.69.29 24a5T28.6a.29 24a6T28.6b.29 24a7T28.6c.29 24a8T28.6d.29 24a9T28.6e.29",
   "24aaT28.6f.29 24abT28.70.29 24acT28.71.29 24adT28.72.29 24aeT28.73.29 24afT28.74.29",
   "24b0T28.75.29 24b1T28.76.29 24b2T28.77.29 24b3T28.78.29 24b4T28.79.29 24b5T28.7a.29 24b6S61",
   "24d0S61 24eaT30 24ebK 2a0cT222b.222b.222b.222b 2a0dK 2a74T3a.3a.3d 2a75T3d.3d 2a76T3d.3d.3d",
   "2a77K 2adcT2add.338 2addK 2b74X 2b76K 2c00S2c30 2c30K 2c60T2c61 2c61K 2c62T26b 2c63T1d7d",
   "2c64T27d 2c65K 2c67A 2c6dT251 2c6eT271 2c6fT250 2c70T252 2c71K 2c72T2c73 2c73K 2c75T2c76 2c76K",
   "2c7cT6a 2c7dT76 2c7eS23f 2c80A 2ce4K 2cebA 2cefK 2cf2T2cf3 2cf3K 2cf4X 2cf9K 2d26X 2d27K 2d28X",
   "2d2dK 2d2eX 2d30K 2d68X 2d6fT2d61 2d70K 2d71X 2d7fK 2d97X 2da0K 2da7X 2da8K 2dafX 2db0K 2db7X",
   "2db8K 2dbfX 2dc0K 2dc7X 2dc8K 2dcfX 2dd0K 2dd7X 2dd8K 2ddfX 2de0K 2e5eX 2e80K 2e9aX 2e9bK",
   "2e9fT6bcd 2ea0K 2ef3T9f9f 2ef4X 2f00T4e00 2f01T4e28 2f02T4e36 2f03T4e3f 2f04T4e59 2f05T4e85",
   "2f06T4e8c 2f07T4ea0 2f08T4eba 2f09T513f 2f0aT5165 2f0bT516b 2f0cT5182 2f0dT5196 2f0eT51ab",
   "2f0fT51e0 2f10T51f5 2f11T5200 2f12T529b 2f13T52f9 2f14T5315 2f15T531a 2f16T5338 2f17T5341",
   "2f18T535c 2f19T5369 2f1aT5382 2f1bT53b6 2f1cT53c8 2f1dT53e3 2f1eT56d7 2f1fT571f 2f20T58eb",
   "2f21T5902 2f22T590a 2f23T5915 2f24T5927 2f25T5973 2f26T5b50 2f27T5b80 2f28T5bf8 2f29T5c0f",
   "2f2aT5c22 2f2bT5c38 2f2cT5c6e 2f2dT5c71 2f2eT5ddb 2f2fT5de5 2f30T5df1 2f31T5dfe 2f32T5e72",
   "2f33T5e7a 2f34T5e7f 2f35T5ef4 2f36T5efe 2f37T5f0b 2f38T5f13 2f39T5f50 2f3aT5f61 2f3bT5f73",
   "2f3cT5fc3 2f3dT6208 2f3eT6236 2f3fT624b 2f40T652f 2f41T6534 2f42T6587 2f43T6597 2f44T65a4",
   "2f45T65b9 2f46T65e0 2f47T65e5 2f48T66f0 2f49T6708 2f4aT6728 2f4bT6b20 2f4cT6b62 2f4dT6b79",
   "2f4eT6bb3 2f4fT6bcb 2f50T6bd4 2f51T6bdb 2f52T6c0f 2f53T6c14 2f54T6c34 2f55T706b 2f56T722a",
   "2f57T7236 2f58T723b 2f59T723f 2f5aT7247 2f5bT7259 2f5cT725b 2f5dT72ac 2f5eT7384 2f5fT7389",
   "2f60T74dc 2f61T74e6 2f62T7518 2f63T751f 2f64T7528 2f65T7530 2f66T758b 2f67T7592 2f68T7676",
   "2f69T767d 2f6aT76ae 2f6bT76bf 2f6cT76ee 2f6dT77db 2f6eT77e2 2f6fT77f3 2f70T793a 2f71T79b8",
   "2f72T79be 2f73T7a74 2f74T7acb 2f75T7af9 2f76T7c73 2f77T7cf8 2f78T7f36 2f79T7f51 2f7aT7f8a",
   "2f7bT7fbd 2f7cT8001 2f7dT800c 2f7eT8012 2f7fT8033 2f80T807f 2f81T8089 2f82T81e3 2f83T81ea",
   "2f84T81f3 2f85T81fc 2f86T820c 2f87T821b 2f88T821f 2f89T826e 2f8aT8272 2f8bT8278 2f8cT864d",
   "2f8dT866b 2f8eT8840 2f8fT884c 2f90T8863 2f91T897e 2f92T898b 2f93T89d2 2f94T8a00 2f95T8c37",
   "2f96T8c46 2f97T8c55 2f98T8c78 2f99T8c9d 2f9aT8d64 2f9bT8d70 2f9cT8db3 2f9dT8eab 2f9eT8eca",
   "2f9fT8f9b 2fa0T8fb0 2fa1T8fb5 2fa2T9091 2fa3T9149 2fa4T91c6 2fa5T91cc 2fa6T91d1 2fa7T9577",
   "2fa8T9580 2fa9T961c 2faaT96b6 2fabT96b9 2facT96e8 2fadT9751 2faeT975e 2fafT9762 2fb0T9769",
   "2fb1T97cb 2fb2T97ed 2fb3T97f3 2fb4T9801 2fb5T98a8 2fb6T98db 2fb7T98df 2fb8T9996 2fb9T9999",
   "2fbaT99ac 2fbbT9aa8 2fbcT9ad8 2fbdT9adf 2fbeT9b25 2fbfT9b2f 2fc0T9b32 2fc1T9b3c 2fc2T9b5a",
   "2fc3T9ce5 2fc4T9e75 2fc5T9e7f 2fc6T9ea5 2fc7T9ebb 2fc8T9ec3 2fc9T9ecd 2fcaT9ed1 2fcbT9ef9",
   "2fccT9efd 2fcdT9f0e 2fceT9f13 2fcfT9f20 2fd0T9f3b 2fd1T9f4a 2fd2T9f52 2fd3T9f8d 2fd4T9f9c",
   "2fd5T9fa0 2fd6X 3000T20 3001K 3002T2e 3003K 3036T3012 3037K 3038T5341 3039S5344 303bK 3040X",
   "3041K 3097X 3099K 309bT20.3099 309cT20.309a 309dK 309fT3088.308a 30a0K 30ffT30b3.30c8 3100X",
   "3105K 3130X 3131S1100 3133T11aa 3134T1102 3135S11ac 3137S1103 313aS11b0 3140T111a 3141S1106",
   "3144T1121 3145S1109 314fS1161 3164I 3165S1114 3167S11c7 3169T11cc 316aT11ce 316bT11d3",
   "316cT11d7 316dT11d9 316eT111c 316fT11dd 3170T11df 3171S111d 3173T1120 3174S1122 3176T1127",
   "3177T1129 3178S112b 317dT1132 317eT1136 317fT1140 3180T1147 3181T114c 3182S11f1 3184S1157",
   "3187S1184 3189T1188 318aS1191 318cT1194 318dT119e 318eT11a1 318fX 3190K 3192T4e00 3193T4e8c",
   "3194T4e09 3195T56db 3196T4e0a 3197T4e2d 3198T4e0b 3199T7532 319aT4e59 319bT4e19 319cT4e01",
   "319dT5929 319eT5730 319fT4eba 31a0K 31e6X 31f0K 3200T28.1100.29 3201T28.1102.29",
   "3202T28.1103.29 3203T28.1105.29 3204T28.1106.29 3205T28.1107.29 3206T28.1109.29",
   "3207T28.110b.29 3208T28.110c.29 3209T28.110e.29 320aT28.110f.29 320bT28.1110.29",
   "320cT28.1111.29 320dT28.1112.29 320eT28.ac00.29 320fT28.b098.29 3210T28.b2e4.29",
   "3211T28.b77c.29 3212T28.b9c8.29 3213T28.bc14.29 3214T28.c0ac.29 3215T28.c544.29",
   "3216T28.c790.29 3217T28.cc28.29 3218T28.ce74.29 3219T28.d0c0.29 321aT28.d30c.29",
   "321bT28.d558.29 321cT28.c8fc.29 321dT28.c624.c804.29 321eT28.c624.d6c4.29 321fX",
   "3220T28.4e00.29 3221T28.4e8c.29 3222T28.4e09.29 3223T28.56db.29 3224T28.4e94.29",
   "3225T28.516d.29 3226T28.4e03.29 3227T28.516b.29 3228T28.4e5d.29 3229T28.5341.29",
   "322aT28.6708.29 322bT28.706b.29 322cT28.6c34.29 322dT28.6728.29 322eT28.91d1.29",
   "322fT28.571f.29 3230T28.65e5.29 3231T28.682a.29 3232T28.6709.29 3233T28.793e.29",
   "3234T28.540d.29 3235T28.7279.29 3236T28.8ca1.29 3237T28.795d.29 3238T28.52b4.29",
   "3239T28.4ee3.29 323aT28.547c.29 323bT28.5b66.29 323cT28.76e3.29 323dT28.4f01.29",
   "323eT28.8cc7.29 323fT28.5354.29 3240T28.796d.29 3241T28.4f11.29 3242T28.81ea.29",
   "3243T28.81f3.29 3244T554f 3245T5e7c 3246T6587 3247T7b8f 3248K 3250T70.74.65 3251T32.31",
   "3252T32.32 3253T32.33 3254T32.34 3255T32.35 3256T32.36 3257T32.37 3258T32.38 3259T32.39",
   "325aT33.30 325bT33.31 325cT33.32 325dT33.33 325eT33.34 325fT33.35 3260T1100 3261S1102",
   "3263S1105 3266T1109 3267S110b 3269S110e 326eTac00 326fTb098 3270Tb2e4 3271Tb77c 3272Tb9c8",
   "3273Tbc14 3274Tc0ac 3275Tc544 3276Tc790 3277Tcc28 3278Tce74 3279Td0c0 327aTd30c 327bTd558",
   "327cTcc38.ace0 327dTc8fc.c758 327eTc6b0 327fK 3280T4e00 3281T4e8c 3282T4e09 3283T56db",
   "3284T4e94 3285T516d 3286T4e03 3287T516b 3288T4e5d 3289T5341 328aT6708 328bT706b 328cT6c34",
   "328dT6728 328eT91d1 328fT571f 3290T65e5 3291T682a 3292T6709 3293T793e 3294T540d 3295T7279",
   "3296T8ca1 3297T795d 3298T52b4 3299T79d8 329aT7537 329bT5973 329cT9069 329dT512a 329eT5370",
   "329fT6ce8 32a0T9805 32a1T4f11 32a2T5199 32a3T6b63 32a4T4e0a 32a5T4e2d 32a6T4e0b 32a7T5de6",
   "32a8T53f3 32a9T533b 32aaT5b97 32abT5b66 32acT76e3 32adT4f01 32aeT8cc7 32afT5354 32b0T591c",
   "32b1T33.36 32b2T33.37 32b3T33.38 32b4T33.39 32b5T34.30 32b6T34.31 32b7T34.32 32b8T34.33",
   "32b9T34.34 32baT34.35 32bbT34.36 32bcT34.37 32bdT34.38 32beT34.39 32bfT35.30 32c0T31.6708",
   "32c1T32.6708 32c2T33.6708 32c3T34.6708 32c4T35.6708 32c5T36.6708 32c6T37.6708 32c7T38.6708",
   "32c8T39.6708 32c9T31.30.6708 32caT31.31.6708 32cbT31.32.6708 32ccT68.67 32cdT65.72.67",
   "32ceT65.76 32cfT6c.74.64 32d0T30a2 32d1T30a4 32d2T30a6 32d3T30a8 32d4S30aa 32d6T30ad 32d7T30af",
   "32d8T30b1 32d9T30b3 32daT30b5 32dbT30b7 32dcT30b9 32ddT30bb 32deT30bd 32dfT30bf 32e0T30c1",
   "32e1T30c4 32e2T30c6 32e3T30c8 32e4S30ca 32eaT30d2 32ebT30d5 32ecT30d8 32edT30db 32eeS30de",
   "32f3T30e4 32f4T30e6 32f5S30e8 32fbS30ef 32ffT4ee4.548c 3300T30a2.30d1.30fc.30c8",
   "3301T30a2.30eb.30d5.30a1 3302T30a2.30f3.30da.30a2 3303T30a2.30fc.30eb 3304T30a4.30cb.30f3.30b0",
   "3305T30a4.30f3.30c1 3306T30a6.30a9.30f3 3307T30a8.30b9.30af.30fc.30c9 3308T30a8.30fc.30ab.30fc",
   "3309T30aa.30f3.30b9 330aT30aa.30fc.30e0 330bT30ab.30a4.30ea 330cT30ab.30e9.30c3.30c8",
   "330dT30ab.30ed.30ea.30fc 330eT30ac.30ed.30f3 330fT30ac.30f3.30de 3310T30ae.30ac",
   "3311T30ae.30cb.30fc 3312T30ad.30e5.30ea.30fc 3313T30ae.30eb.30c0.30fc 3314T30ad.30ed",
   "3315T30ad.30ed.30b0.30e9.30e0 3316T30ad.30ed.30e1.30fc.30c8.30eb 3317T30ad.30ed.30ef.30c3.30c8",
   "3318T30b0.30e9.30e0 3319T30b0.30e9.30e0.30c8.30f3 331aT30af.30eb.30bc.30a4.30ed",
   "331bT30af.30ed.30fc.30cd 331cT30b1.30fc.30b9 331dT30b3.30eb.30ca 331eT30b3.30fc.30dd",
   "331fT30b5.30a4.30af.30eb 3320T30b5.30f3.30c1.30fc.30e0 3321T30b7.30ea.30f3.30b0",
   "3322T30bb.30f3.30c1 3323T30bb.30f3.30c8 3324T30c0.30fc.30b9 3325T30c7.30b7 3326T30c9.30eb",
   "3327T30c8.30f3 3328T30ca.30ce 3329T30ce.30c3.30c8 332aT30cf.30a4.30c4",
   "332bT30d1.30fc.30bb.30f3.30c8 332cT30d1.30fc.30c4 332dT30d0.30fc.30ec.30eb",
   "332eT30d4.30a2.30b9.30c8.30eb 332fT30d4.30af.30eb 3330T30d4.30b3 3331T30d3.30eb",
   "3332T30d5.30a1.30e9.30c3.30c9 3333T30d5.30a3.30fc.30c8 3334T30d6.30c3.30b7.30a7.30eb",
   "3335T30d5.30e9.30f3 3336T30d8.30af.30bf.30fc.30eb 3337T30da.30bd 3338T30da.30cb.30d2",
   "3339T30d8.30eb.30c4 333aT30da.30f3.30b9 333bT30da.30fc.30b8 333cT30d9.30fc.30bf",
   "333dT30dd.30a4.30f3.30c8 333eT30dc.30eb.30c8 333fT30db.30f3 3340T30dd.30f3.30c9",
   "3341T30db.30fc.30eb 3342T30db.30fc.30f3 3343T30de.30a4.30af.30ed 3344T30de.30a4.30eb",
   "3345T30de.30c3.30cf 3346T30de.30eb.30af 3347T30de.30f3.30b7.30e7.30f3 3348T30df.30af.30ed.30f3",
   "3349T30df.30ea 334aT30df.30ea.30d0.30fc.30eb 334bT30e1.30ac 334cT30e1.30ac.30c8.30f3",
   "334dT30e1.30fc.30c8.30eb 334eT30e4.30fc.30c9 334fT30e4.30fc.30eb 3350T30e6.30a2.30f3",
   "3351T30ea.30c3.30c8.30eb 3352T30ea.30e9 3353T30eb.30d4.30fc 3354T30eb.30fc.30d6.30eb",
   "3355T30ec.30e0 3356T30ec.30f3.30c8.30b2.30f3 3357T30ef.30c3.30c8 3358T30.70b9 3359T31.70b9",
   "335aT32.70b9 335bT33.70b9 335cT34.70b9 335dT35.70b9 335eT36.70b9 335fT37.70b9 3360T38.70b9",
   "3361T39.70b9 3362T31.30.70b9 3363T31.31.70b9 3364T31.32.70b9 3365T31.33.70b9 3366T31.34.70b9",
   "3367T31.35.70b9 3368T31.36.70b9 3369T31.37.70b9 336aT31.38.70b9 336bT31.39.70b9",
   "336cT32.30.70b9 336dT32.31.70b9 336eT32.32.70b9 336fT32.33.70b9 3370T32.34.70b9 3371T68.70.61",
   "3372T64.61 3373T61.75 3374T62.61.72 3375T6f.76 3376T70.63 3377T64.6d 3378T64.6d.32",
   "3379T64.6d.33 337aT69.75 337bT5e73.6210 337cT662d.548c 337dT5927.6b63 337eT660e.6cbb",
   "337fT682a.5f0f.4f1a.793e 3380T70.61 3381T6e.61 3382T3bc.61 3383T6d.61 3384T6b.61 3385T6b.62",
   "3386T6d.62 3387T67.62 3388T63.61.6c 3389T6b.63.61.6c 338aT70.66 338bT6e.66 338cT3bc.66",
   "338dT3bc.67 338eT6d.67 338fT6b.67 3390T68.7a 3391T6b.68.7a 3392T6d.68.7a 3393T67.68.7a",
   "3394T74.68.7a 3395T3bc.6c 3396T6d.6c 3397T64.6c 3398T6b.6c 3399T66.6d 339aT6e.6d 339bT3bc.6d",
   "339cT6d.6d 339dT63.6d 339eT6b.6d 339fT6d.6d.32 33a0T63.6d.32 33a1T6d.32 33a2T6b.6d.32",
   "33a3T6d.6d.33 33a4T63.6d.33 33a5T6d.33 33a6T6b.6d.33 33a7T6d.2215.73 33a8T6d.2215.73.32",
   "33a9T70.61 33aaT6b.70.61 33abT6d.70.61 33acT67.70.61 33adT72.61.64 33aeT72.61.64.2215.73",
   "33afT72.61.64.2215.73.32 33b0T70.73 33b1T6e.73 33b2T3bc.73 33b3T6d.73 33b4T70.76 33b5T6e.76",
   "33b6T3bc.76 33b7T6d.76 33b8T6b.76 33b9T6d.76 33baT70.77 33bbT6e.77 33bcT3bc.77 33bdT6d.77",
   "33beT6b.77 33bfT6d.77 33c0T6b.3c9 33c1T6d.3c9 33c2X 33c3T62.71 33c4T63.63 33c5T63.64",
   "33c6T63.2215.6b.67 33c7X 33c8T64.62 33c9T67.79 33caT68.61 33cbT68.70 33ccT69.6e 33cdT6b.6b",
   "33ceT6b.6d 33cfT6b.74 33d0T6c.6d 33d1T6c.6e 33d2T6c.6f.67 33d3T6c.78 33d4T6d.62 33d5T6d.69.6c",
   "33d6T6d.6f.6c 33d7T70.68 33d8X 33d9T70.70.6d 33daT70.72 33dbT73.72 33dcT73.76 33ddT77.62",
   "33deT76.2215.6d 33dfT61.2215.6d 33e0T31.65e5 33e1T32.65e5 33e2T33.65e5 33e3T34.65e5",
   "33e4T35.65e5 33e5T36.65e5 33e6T37.65e5 33e7T38.65e5 33e8T39.65e5 33e9T31.30.65e5",
   "33eaT31.31.65e5 33ebT31.32.65e5 33ecT31.33.65e5 33edT31.34.65e5 33eeT31.35.65e5",
   "33efT31.36.65e5 33f0T31.37.65e5 33f1T31.38.65e5 33f2T31.39.65e5 33f3T32.30.65e5",
   "33f4T32.31.65e5 33f5T32.32.65e5 33f6T32.33.65e5 33f7T32.34.65e5 33f8T32.35.65e5",
   "33f9T32.36.65e5 33faT32.37.65e5 33fbT32.38.65e5 33fcT32.39.65e5 33fdT33.30.65e5",
   "33feT33.31.65e5 33ffT67.61.6c 3400K a48dX a490K a4c7X a4d0K a62cX a640A a66eK a680A a69cT44a",
   "a69dT44c a69eK a6f8X a700K a722A a730K a732A a770Ta76f a771K a779A a77dT1d79 a77eA a788K",
   "a78bTa78c a78cK a78dT265 a78eK a790A a794K a796A a7aaT266 a7abT25c a7acT261 a7adT26c a7aeT26a",
   "a7afK a7b0T29e a7b1T287 a7b2T29d a7b3Tab53 a7b4A a7c4Ta794 a7c5T282 a7c6T1d8e a7c7A a7cbT264",
   "a7ccA a7dcT19b a7ddX a7f1T73 a7f2T63 a7f3T66 a7f4T71 a7f5Ta7f6 a7f6K a7f8T127 a7f9T153 a7faK",
   "a82dX a830K a83aX a840K a878X a880K a8c6X a8ceK a8daX a8e0K a954X a95fK a97dX a980K a9ceX",
   "a9cfK a9daX a9deK a9ffX aa00K aa37X aa40K aa4eX aa50K aa5aX aa5cK aac3X aadbK aaf7X ab01K",
   "ab07X ab09K ab0fX ab11K ab17X ab20K ab27X ab28K ab2fX ab30K ab5cTa727 ab5dTab37 ab5eT26b",
   "ab5fTab52 ab60K ab69T28d ab6aK ab6cX ab70S13a0 abc0K abeeX abf0K abfaX ac00K d7a4X d7b0K d7c7X",
   "d7cbK d7fcX f900T8c48 f901T66f4 f902T8eca f903T8cc8 f904T6ed1 f905T4e32 f906T53e5 f907T9f9c",
   "f909T5951 f90aT91d1 f90bT5587 f90cT5948 f90dT61f6 f90eT7669 f90fT7f85 f910T863f f911T87ba",
   "f912T88f8 f913T908f f914T6a02 f915T6d1b f916T70d9 f917T73de f918T843d f919T916a f91aT99f1",
   "f91bT4e82 f91cT5375 f91dT6b04 f91eT721b f91fT862d f920T9e1e f921T5d50 f922T6feb f923T85cd",
   "f924T8964 f925T62c9 f926T81d8 f927T881f f928T5eca f929T6717 f92aT6d6a f92bT72fc f92cT90ce",
   "f92dT4f86 f92eT51b7 f92fT52de f930T64c4 f931T6ad3 f932T7210 f933T76e7 f934T8001 f935T8606",
   "f936T865c f937T8def f938T9732 f939T9b6f f93aT9dfa f93bT788c f93cT797f f93dT7da0 f93eT83c9",
   "f93fT9304 f940T9e7f f941T8ad6 f942T58df f943T5f04 f944T7c60 f945T807e f946T7262 f947T78ca",
   "f948T8cc2 f949T96f7 f94aT58d8 f94bT5c62 f94cT6a13 f94dT6dda f94eT6f0f f94fT7d2f f950T7e37",
   "f951T964b f952T52d2 f953T808b f954T51dc f955T51cc f956T7a1c f957T7dbe f958T83f1 f959T9675",
   "f95aT8b80 f95bT62cf f95cT6a02 f95dT8afe f95eT4e39 f95fT5be7 f960T6012 f961T7387 f962T7570",
   "f963T5317 f964T78fb f965T4fbf f966T5fa9 f967T4e0d f968T6ccc f969T6578 f96aT7d22 f96bT53c3",
   "f96cT585e f96dT7701 f96eT8449 f96fT8aaa f970T6bba f971T8fb0 f972T6c88 f973T62fe f974T82e5",
   "f975T63a0 f976T7565 f977T4eae f978T5169 f979T51c9 f97aT6881 f97bT7ce7 f97cT826f f97dT8ad2",
   "f97eT91cf f97fT52f5 f980T5442 f981T5973 f982T5eec f983T65c5 f984T6ffe f985T792a f986T95ad",
   "f987T9a6a f988T9e97 f989T9ece f98aT529b f98bT66c6 f98cT6b77 f98dT8f62 f98eT5e74 f98fT6190",
   "f990T6200 f991T649a f992T6f23 f993T7149 f994T7489 f995T79ca f996T7df4 f997T806f f998T8f26",
   "f999T84ee f99aT9023 f99bT934a f99cT5217 f99dT52a3 f99eT54bd f99fT70c8 f9a0T88c2 f9a1T8aaa",
   "f9a2T5ec9 f9a3T5ff5 f9a4T637b f9a5T6bae f9a6T7c3e f9a7T7375 f9a8T4ee4 f9a9T56f9 f9aaT5be7",
   "f9abT5dba f9acT601c f9adT73b2 f9aeT7469 f9afT7f9a f9b0T8046 f9b1T9234 f9b2T96f6 f9b3T9748",
   "f9b4T9818 f9b5T4f8b f9b6T79ae f9b7T91b4 f9b8T96b8 f9b9T60e1 f9baT4e86 f9bbT50da f9bcT5bee",
   "f9bdT5c3f f9beT6599 f9bfT6a02 f9c0T71ce f9c1T7642 f9c2T84fc f9c3T907c f9c4T9f8d f9c5T6688",
   "f9c6T962e f9c7T5289 f9c8T677b f9c9T67f3 f9caT6d41 f9cbT6e9c f9ccT7409 f9cdT7559 f9ceT786b",
   "f9cfT7d10 f9d0T985e f9d1T516d f9d2T622e f9d3T9678 f9d4T502b f9d5T5d19 f9d6T6dea f9d7T8f2a",
   "f9d8T5f8b f9d9T6144 f9daT6817 f9dbT7387 f9dcT9686 f9ddT5229 f9deT540f f9dfT5c65 f9e0T6613",
   "f9e1T674e f9e2T68a8 f9e3T6ce5 f9e4T7406 f9e5T75e2 f9e6T7f79 f9e7T88cf f9e8T88e1 f9e9T91cc",
   "f9eaT96e2 f9ebT533f f9ecT6eba f9edT541d f9eeT71d0 f9efT7498 f9f0T85fa f9f1T96a3 f9f2T9c57",
   "f9f3T9e9f f9f4T6797 f9f5T6dcb f9f6T81e8 f9f7T7acb f9f8T7b20 f9f9T7c92 f9faT72c0 f9fbT7099",
   "f9fcT8b58 f9fdT4ec0 f9feT8336 f9ffT523a fa00T5207 fa01T5ea6 fa02T62d3 fa03T7cd6 fa04T5b85",
   "fa05T6d1e fa06T66b4 fa07T8f3b fa08T884c fa09T964d fa0aT898b fa0bT5ed3 fa0cT5140 fa0dT55c0",
   "fa0eK fa10T585a fa11K fa12T6674 fa13K fa15T51de fa16T732a fa17T76ca fa18T793c fa19T795e",
   "fa1aT7965 fa1bT798f fa1cT9756 fa1dT7cbe fa1eT7fbd fa1fK fa20T8612 fa21K fa22T8af8 fa23K",
   "fa25T9038 fa26T90fd fa27K fa2aT98ef fa2bT98fc fa2cT9928 fa2dT9db4 fa2eT90de fa2fT96b7",
   "fa30T4fae fa31T50e7 fa32T514d fa33T52c9 fa34T52e4 fa35T5351 fa36T559d fa37T5606 fa38T5668",
   "fa39T5840 fa3aT58a8 fa3bT5c64 fa3cT5c6e fa3dT6094 fa3eT6168 fa3fT618e fa40T61f2 fa41T654f",
   "fa42T65e2 fa43T6691 fa44T6885 fa45T6d77 fa46T6e1a fa47T6f22 fa48T716e fa49T722b fa4aT7422",
   "fa4bT7891 fa4cT793e fa4dT7949 fa4eT7948 fa4fT7950 fa50T7956 fa51T795d fa52S798d fa54T7a40",
   "fa55T7a81 fa56T7bc0 fa57T7df4 fa58T7e09 fa59T7e41 fa5aT7f72 fa5bT8005 fa5cT81ed fa5dT8279",
   "fa5fT8457 fa60T8910 fa61T8996 fa62T8b01 fa63T8b39 fa64T8cd3 fa65T8d08 fa66T8fb6 fa67T9038",
   "fa68T96e3 fa69T97ff fa6aT983b fa6bT6075 fa6cT242ee fa6dT8218 fa6eX fa70T4e26 fa71T51b5",
   "fa72T5168 fa73T4f80 fa74T5145 fa75T5180 fa76T52c7 fa77T52fa fa78T559d fa79T5555 fa7aT5599",
   "fa7bT55e2 fa7cT585a fa7dT58b3 fa7eT5944 fa7fT5954 fa80T5a62 fa81T5b28 fa82T5ed2 fa83T5ed9",
   "fa84T5f69 fa85T5fad fa86T60d8 fa87T614e fa88T6108 fa89T618e fa8aT6160 fa8bT61f2 fa8cT6234",
   "fa8dT63c4 fa8eT641c fa8fT6452 fa90T6556 fa91T6674 fa92T6717 fa93T671b fa94T6756 fa95T6b79",
   "fa96T6bba fa97T6d41 fa98T6edb fa99T6ecb fa9aT6f22 fa9bT701e fa9cT716e fa9dT77a7 fa9eT7235",
   "fa9fT72af faa0T732a faa1T7471 faa2T7506 faa3T753b faa4T761d faa5T761f faa6T76ca faa7T76db",
   "faa8T76f4 faa9T774a faaaT7740 faabT78cc faacT7ab1 faadT7bc0 faaeT7c7b faafT7d5b fab0T7df4",
   "fab1T7f3e fab2T8005 fab3T8352 fab4T83ef fab5T8779 fab6T8941 fab7T8986 fab8T8996 fab9T8abf",
   "fabaT8af8 fabbT8acb fabcT8b01 fabdT8afe fabeT8aed fabfT8b39 fac0T8b8a fac1T8d08 fac2T8f38",
   "fac3T9072 fac4T9199 fac5T9276 fac6T967c fac7T96e3 fac8T9756 fac9T97db facaT97ff facbT980b",
   "faccT983b facdT9b12 faceT9f9c facfT2284a fad0T22844 fad1T233d5 fad2T3b9d fad3T4018 fad4T4039",
   "fad5T25249 fad6T25cd0 fad7T27ed3 fad8T9f43 fad9T9f8e fadaX fb00T66.66 fb01T66.69 fb02T66.6c",
   "fb03T66.66.69 fb04T66.66.6c fb05T73.74 fb07X fb13T574.576 fb14T574.565 fb15T574.56b",
   "fb16T57e.576 fb17T574.56d fb18X fb1dT5d9.5b4 fb1eK fb1fT5f2.5b7 fb20T5e2 fb21T5d0 fb22S5d3",
   "fb24S5db fb27T5e8 fb28T5ea fb29T2b fb2aT5e9.5c1 fb2bT5e9.5c2 fb2cT5e9.5bc.5c1 fb2dT5e9.5bc.5c2",
   "fb2eT5d0.5b7 fb2fT5d0.5b8 fb30T5d0.5bc fb31T5d1.5bc fb32T5d2.5bc fb33T5d3.5bc fb34T5d4.5bc",
   "fb35T5d5.5bc fb36T5d6.5bc fb37X fb38T5d8.5bc fb39T5d9.5bc fb3aT5da.5bc fb3bT5db.5bc",
   "fb3cT5dc.5bc fb3dX fb3eT5de.5bc fb3fX fb40T5e0.5bc fb41T5e1.5bc fb42X fb43T5e3.5bc",
   "fb44T5e4.5bc fb45X fb46T5e6.5bc fb47T5e7.5bc fb48T5e8.5bc fb49T5e9.5bc fb4aT5ea.5bc",
   "fb4bT5d5.5b9 fb4cT5d1.5bf fb4dT5db.5bf fb4eT5e4.5bf fb4fT5d0.5dc fb50T671 fb52T67b fb56T67e",
   "fb5aT680 fb5eT67a fb62T67f fb66T679 fb6aT6a4 fb6eT6a6 fb72T684 fb76T683 fb7aT686 fb7eT687",
   "fb82T68d fb84T68c fb86T68e fb88T688 fb8aT698 fb8cT691 fb8eT6a9 fb92T6af fb96T6b3 fb9aT6b1",
   "fb9eT6ba fba0T6bb fba4T6c0 fba6T6c1 fbaaT6be fbaeT6d2 fbb0T6d3 fbb2K fbd3T6ad fbd7T6c7",
   "fbd9T6c6 fbdbT6c8 fbddT6c7.674 fbdeT6cb fbe0T6c5 fbe2T6c9 fbe4T6d0 fbe8T649 fbeaT626.627",
   "fbecT626.6d5 fbeeT626.648 fbf0T626.6c7 fbf2T626.6c6 fbf4T626.6c8 fbf6T626.6d0 fbf9T626.649",
   "fbfcT6cc fc00T626.62c fc01T626.62d fc02T626.645 fc03T626.649 fc04T626.64a fc05T628.62c",
   "fc06T628.62d fc07T628.62e fc08T628.645 fc09T628.649 fc0aT628.64a fc0bT62a.62c fc0cT62a.62d",
   "fc0dT62a.62e fc0eT62a.645 fc0fT62a.649 fc10T62a.64a fc11T62b.62c fc12T62b.645 fc13T62b.649",
   "fc14T62b.64a fc15T62c.62d fc16T62c.645 fc17T62d.62c fc18T62d.645 fc19T62e.62c fc1aT62e.62d",
   "fc1bT62e.645 fc1cT633.62c fc1dT633.62d fc1eT633.62e fc1fT633.645 fc20T635.62d fc21T635.645",
   "fc22T636.62c fc23T636.62d fc24T636.62e fc25T636.645 fc26T637.62d fc27T637.645 fc28T638.645",
   "fc29T639.62c fc2aT639.645 fc2bT63a.62c fc2cT63a.645 fc2dT641.62c fc2eT641.62d fc2fT641.62e",
   "fc30T641.645 fc31T641.649 fc32T641.64a fc33T642.62d fc34T642.645 fc35T642.649 fc36T642.64a",
   "fc37T643.627 fc38T643.62c fc39T643.62d fc3aT643.62e fc3bT643.644 fc3cT643.645 fc3dT643.649",
   "fc3eT643.64a fc3fT644.62c fc40T644.62d fc41T644.62e fc42T644.645 fc43T644.649 fc44T644.64a",
   "fc45T645.62c fc46T645.62d fc47T645.62e fc48T645.645 fc49T645.649 fc4aT645.64a fc4bT646.62c",
   "fc4cT646.62d fc4dT646.62e fc4eT646.645 fc4fT646.649 fc50T646.64a fc51T647.62c fc52T647.645",
   "fc53T647.649 fc54T647.64a fc55T64a.62c fc56T64a.62d fc57T64a.62e fc58T64a.645 fc59T64a.649",
   "fc5aT64a.64a fc5bT630.670 fc5cT631.670 fc5dT649.670 fc5eT20.64c.651 fc5fT20.64d.651",
   "fc60T20.64e.651 fc61T20.64f.651 fc62T20.650.651 fc63T20.651.670 fc64T626.631 fc65T626.632",
   "fc66T626.645 fc67T626.646 fc68T626.649 fc69T626.64a fc6aT628.631 fc6bT628.632 fc6cT628.645",
   "fc6dT628.646 fc6eT628.649 fc6fT628.64a fc70T62a.631 fc71T62a.632 fc72T62a.645 fc73T62a.646",
   "fc74T62a.649 fc75T62a.64a fc76T62b.631 fc77T62b.632 fc78T62b.645 fc79T62b.646 fc7aT62b.649",
   "fc7bT62b.64a fc7cT641.649 fc7dT641.64a fc7eT642.649 fc7fT642.64a fc80T643.627 fc81T643.644",
   "fc82T643.645 fc83T643.649 fc84T643.64a fc85T644.645 fc86T644.649 fc87T644.64a fc88T645.627",
   "fc89T645.645 fc8aT646.631 fc8bT646.632 fc8cT646.645 fc8dT646.646 fc8eT646.649 fc8fT646.64a",
   "fc90T649.670 fc91T64a.631 fc92T64a.632 fc93T64a.645 fc94T64a.646 fc95T64a.649 fc96T64a.64a",
   "fc97T626.62c fc98T626.62d fc99T626.62e fc9aT626.645 fc9bT626.647 fc9cT628.62c fc9dT628.62d",
   "fc9eT628.62e fc9fT628.645 fca0T628.647 fca1T62a.62c fca2T62a.62d fca3T62a.62e fca4T62a.645",
   "fca5T62a.647 fca6T62b.645 fca7T62c.62d fca8T62c.645 fca9T62d.62c fcaaT62d.645 fcabT62e.62c",
   "fcacT62e.645 fcadT633.62c fcaeT633.62d fcafT633.62e fcb0T633.645 fcb1T635.62d fcb2T635.62e",
   "fcb3T635.645 fcb4T636.62c fcb5T636.62d fcb6T636.62e fcb7T636.645 fcb8T637.62d fcb9T638.645",
   "fcbaT639.62c fcbbT639.645 fcbcT63a.62c fcbdT63a.645 fcbeT641.62c fcbfT641.62d fcc0T641.62e",
   "fcc1T641.645 fcc2T642.62d fcc3T642.645 fcc4T643.62c fcc5T643.62d fcc6T643.62e fcc7T643.644",
   "fcc8T643.645 fcc9T644.62c fccaT644.62d fccbT644.62e fcccT644.645 fccdT644.647 fcceT645.62c",
   "fccfT645.62d fcd0T645.62e fcd1T645.645 fcd2T646.62c fcd3T646.62d fcd4T646.62e fcd5T646.645",
   "fcd6T646.647 fcd7T647.62c fcd8T647.645 fcd9T647.670 fcdaT64a.62c fcdbT64a.62d fcdcT64a.62e",
   "fcddT64a.645 fcdeT64a.647 fcdfT626.645 fce0T626.647 fce1T628.645 fce2T628.647 fce3T62a.645",
   "fce4T62a.647 fce5T62b.645 fce6T62b.647 fce7T633.645 fce8T633.647 fce9T634.645 fceaT634.647",
   "fcebT643.644 fcecT643.645 fcedT644.645 fceeT646.645 fcefT646.647 fcf0T64a.645 fcf1T64a.647",
   "fcf2T640.64e.651 fcf3T640.64f.651 fcf4T640.650.651 fcf5T637.649 fcf6T637.64a fcf7T639.649",
   "fcf8T639.64a fcf9T63a.649 fcfaT63a.64a fcfbT633.649 fcfcT633.64a fcfdT634.649 fcfeT634.64a",
   "fcffT62d.649 fd00T62d.64a fd01T62c.649 fd02T62c.64a fd03T62e.649 fd04T62e.64a fd05T635.649",
   "fd06T635.64a fd07T636.649 fd08T636.64a fd09T634.62c fd0aT634.62d fd0bT634.62e fd0cT634.645",
   "fd0dT634.631 fd0eT633.631 fd0fT635.631 fd10T636.631 fd11T637.649 fd12T637.64a fd13T639.649",
   "fd14T639.64a fd15T63a.649 fd16T63a.64a fd17T633.649 fd18T633.64a fd19T634.649 fd1aT634.64a",
   "fd1bT62d.649 fd1cT62d.64a fd1dT62c.649 fd1eT62c.64a fd1fT62e.649 fd20T62e.64a fd21T635.649",
   "fd22T635.64a fd23T636.649 fd24T636.64a fd25T634.62c fd26T634.62d fd27T634.62e fd28T634.645",
   "fd29T634.631 fd2aT633.631 fd2bT635.631 fd2cT636.631 fd2dT634.62c fd2eT634.62d fd2fT634.62e",
   "fd30T634.645 fd31T633.647 fd32T634.647 fd33T637.645 fd34T633.62c fd35T633.62d fd36T633.62e",
   "fd37T634.62c fd38T634.62d fd39T634.62e fd3aT637.645 fd3bT638.645 fd3cT627.64b fd3eK",
   "fd50T62a.62c.645 fd51T62a.62d.62c fd53T62a.62d.645 fd54T62a.62e.645 fd55T62a.645.62c",
   "fd56T62a.645.62d fd57T62a.645.62e fd58T62c.645.62d fd5aT62d.645.64a fd5bT62d.645.649",
   "fd5cT633.62d.62c fd5dT633.62c.62d fd5eT633.62c.649 fd5fT633.645.62d fd61T633.645.62c",
   "fd62T633.645.645 fd64T635.62d.62d fd66T635.645.645 fd67T634.62d.645 fd69T634.62c.64a",
   "fd6aT634.645.62e fd6cT634.645.645 fd6eT636.62d.649 fd6fT636.62e.645 fd71T637.645.62d",
   "fd73T637.645.645 fd74T637.645.64a fd75T639.62c.645 fd76T639.645.645 fd78T639.645.649",
   "fd79T63a.645.645 fd7aT63a.645.64a fd7bT63a.645.649 fd7cT641.62e.645 fd7eT642.645.62d",
   "fd7fT642.645.645 fd80T644.62d.645 fd81T644.62d.64a fd82T644.62d.649 fd83T644.62c.62c",
   "fd85T644.62e.645 fd87T644.645.62d fd89T645.62d.62c fd8aT645.62d.645 fd8bT645.62d.64a",
   "fd8cT645.62c.62d fd8dT645.62c.645 fd8eT645.62e.62c fd8fT645.62e.645 fd90K fd92T645.62c.62e",
   "fd93T647.645.62c fd94T647.645.645 fd95T646.62d.645 fd96T646.62d.649 fd97T646.62c.645",
   "fd99T646.62c.649 fd9aT646.645.64a fd9bT646.645.649 fd9cT64a.645.645 fd9eT628.62e.64a",
   "fd9fT62a.62c.64a fda0T62a.62c.649 fda1T62a.62e.64a fda2T62a.62e.649 fda3T62a.645.64a",
   "fda4T62a.645.649 fda5T62c.645.64a fda6T62c.62d.649 fda7T62c.645.649 fda8T633.62e.649",
   "fda9T635.62d.64a fdaaT634.62d.64a fdabT636.62d.64a fdacT644.62c.64a fdadT644.645.64a",
   "fdaeT64a.62d.64a fdafT64a.62c.64a fdb0T64a.645.64a fdb1T645.645.64a fdb2T642.645.64a",
   "fdb3T646.62d.64a fdb4T642.645.62d fdb5T644.62d.645 fdb6T639.645.64a fdb7T643.645.64a",
   "fdb8T646.62c.62d fdb9T645.62e.64a fdbaT644.62c.645 fdbbT643.645.645 fdbcT644.62c.645",
   "fdbdT646.62c.62d fdbeT62c.62d.64a fdbfT62d.62c.64a fdc0T645.62c.64a fdc1T641.645.64a",
   "fdc2T628.62d.64a fdc3T643.645.645 fdc4T639.62c.645 fdc5T635.645.645 fdc6T633.62e.64a",
   "fdc7T646.62c.64a fdc8K fdd0X fdf0T635.644.6d2 fdf1T642.644.6d2 fdf2T627.644.644.647",
   "fdf3T627.643.628.631 fdf4T645.62d.645.62f fdf5T635.644.639.645 fdf6T631.633.648.644",
   "fdf7T639.644.64a.647 fdf8T648.633.644.645 fdf9T635.644.649",
   "fdfaT635.644.649.20.627.644.644.647.20.639.644.64a.647.20.648.633.644.645",
   "fdfbT62c.644.20.62c.644.627.644.647 fdfcT631.6cc.627.644 fdfdK fe00I fe10T2c fe11T3001 fe12X",
   "fe13S3a fe15T21 fe16T3f fe17S3016 fe19X fe20K fe30X fe31T2014 fe32T2013 fe33T5f fe35S28",
   "fe37T7b fe38T7d fe39S3014 fe3bS3010 fe3dS300a fe3fS3008 fe41S300c fe45K fe47T5b fe48T5d",
   "fe49T20.305 fe4dT5f fe50T2c fe51T3001 fe52X fe54T3b fe55T3a fe56T3f fe57T21 fe58T2014 fe59S28",
   "fe5bT7b fe5cT7d fe5dS3014 fe5fT23 fe60T26 fe61S2a fe63T2d fe64T3c fe65T3e fe66T3d fe67X",
   "fe68T5c fe69S24 fe6bT40 fe6cX fe70T20.64b fe71T640.64b fe72T20.64c fe73K fe74T20.64d fe75X",
   "fe76T20.64e fe77T640.64e fe78T20.64f fe79T640.64f fe7aT20.650 fe7bT640.650 fe7cT20.651",
   "fe7dT640.651 fe7eT20.652 fe7fT640.652 fe80S621 fe82S622 fe84S623 fe86S624 fe88S625 fe8aT626",
   "fe8dT627 fe8fT628 fe93T629 fe95T62a fe99T62b fe9dT62c fea1T62d fea5T62e fea9T62f feabT630",
   "feadT631 feafT632 feb1T633 feb5T634 feb9T635 febdT636 fec1T637 fec5T638 fec9T639 fecdT63a",
   "fed1T641 fed5T642 fed9T643 feddT644 fee1T645 fee5T646 fee9T647 feedT648 feefT649 fef1T64a",
   "fef5T644.622 fef7T644.623 fef9T644.625 fefbT644.627 fefdX feffI ff00X ff01S21 ff21S61 ff3bS5b",
   "ff5fS2985 ff61T2e ff62S300c ff64T3001 ff65T30fb ff66T30f2 ff67T30a1 ff68T30a3 ff69T30a5",
   "ff6aT30a7 ff6bT30a9 ff6cT30e3 ff6dT30e5 ff6eT30e7 ff6fT30c3 ff70T30fc ff71T30a2 ff72T30a4",
   "ff73T30a6 ff74T30a8 ff75S30aa ff77T30ad ff78T30af ff79T30b1 ff7aT30b3 ff7bT30b5 ff7cT30b7",
   "ff7dT30b9 ff7eT30bb ff7fT30bd ff80T30bf ff81T30c1 ff82T30c4 ff83T30c6 ff84T30c8 ff85S30ca",
   "ff8bT30d2 ff8cT30d5 ff8dT30d8 ff8eT30db ff8fS30de ff94T30e4 ff95T30e6 ff96S30e8 ff9cT30ef",
   "ff9dT30f3 ff9eS3099 ffa0I ffa1S1100 ffa3T11aa ffa4T1102 ffa5S11ac ffa7S1103 ffaaS11b0",
   "ffb0T111a ffb1S1106 ffb4T1121 ffb5S1109 ffbfX ffc2S1161 ffc8X ffcaS1167 ffd0X ffd2S116d ffd8X",
   "ffdaS1173 ffddX ffe0Sa2 ffe2Tac ffe3T20.304 ffe4Ta6 ffe5Ta5 ffe6T20a9 ffe7X ffe8T2502",
   "ffe9S2190 ffedT25a0 ffeeT25cb ffefX 10000K 1000cX 1000dK 10027X 10028K 1003bX 1003cK 1003eX",
   "1003fK 1004eX 10050K 1005eX 10080K 100fbX 10100K 10103X 10107K 10134X 10137K 1018fX 10190K",
   "1019dX 101a0K 101a1X 101d0K 101feX 10280K 1029dX 102a0K 102d1X 102e0K 102fcX 10300K 10324X",
   "1032dK 1034bX 10350K 1037bX 10380K 1039eX 1039fK 103c4X 103c8K 103d6X 10400S10428 10428K",
   "1049eX 104a0K 104aaX 104b0S104d8 104d4X 104d8K 104fcX 10500K 10528X 10530K 10564X 1056fK",
   "10570S10597 1057bX 1057cS105a3 1058bX 1058cS105b3 10593X 10594S105bb 10596X 10597K 105a2X",
   "105a3K 105b2X 105b3K 105baX 105bbK 105bdX 105c0K 105f4X 10600K 10737X 10740K 10756X 10760K",
   "10768X 10780K 10781S2d0 10783Te6 10784T299 10785T253 10786X 10787T2a3 10788Tab66 10789T2a5",
   "1078aT2a4 1078bS256 1078dT1d91 1078eT258 1078fT25e 10790T2a9 10791T264 10792T262 10793T260",
   "10794T29b 10795T127 10796T29c 10797T267 10798T284 10799S2aa 1079bT26c 1079cT1df04 1079dTa78e",
   "1079eT26e 1079fT1df05 107a0T28e 107a1T1df06 107a2Tf8 107a3S276 107a5T71 107a6T27a 107a7T1df08",
   "107a8S27d 107aaT280 107abT2a8 107acT2a6 107adTab67 107aeT2a7 107afT288 107b0T2c71 107b1X",
   "107b2T28f 107b3S2a1 107b5T298 107b6S1c0 107b9T1df0a 107baT1df1e 107bbX 10800K 10806X 10808K",
   "10809X 1080aK 10836X 10837K 10839X 1083cK 1083dX 1083fK 10856X 10857K 1089fX 108a7K 108b0X",
   "108e0K 108f3X 108f4K 108f6X 108fbK 1091cX 1091fK 1093aX 1093fK 1095aX 10980K 109b8X 109bcK",
   "109d0X 109d2K 10a04X 10a05K 10a07X 10a0cK 10a14X 10a15K 10a18X 10a19K 10a36X 10a38K 10a3bX",
   "10a3fK 10a49X 10a50K 10a59X 10a60K 10aa0X 10ac0K 10ae7X 10aebK 10af7X 10b00K 10b36X 10b39K",
   "10b56X 10b58K 10b73X 10b78K 10b92X 10b99K 10b9dX 10ba9K 10bb0X 10c00K 10c49X 10c80S10cc0",
   "10cb3X 10cc0K 10cf3X 10cfaK 10d28X 10d30K 10d3aX 10d40K 10d50S10d70 10d66X 10d69K 10d86X",
   "10d8eK 10d90X 10e60K 10e7fX 10e80K 10eaaX 10eabK 10eaeX 10eb0K 10eb2X 10ec2K 10ec8X 10ed0K",
   "10ed9X 10efaK 10f28X 10f30K 10f5aX 10f70K 10f8aX 10fb0K 10fccX 10fe0K 10ff7X 11000K 1104eX",
   "11052K 11076X 1107fK 110bdX 110beK 110c3X 110d0K 110e9X 110f0K 110faX 11100K 11135X 11136K",
   "11148X 11150K 11177X 11180K 111e0X 111e1K 111f5X 11200K 11212X 11213K 11242X 11280K 11287X",
   "11288K 11289X 1128aK 1128eX 1128fK 1129eX 1129fK 112aaX 112b0K 112ebX 112f0K 112faX 11300K",
   "11304X 11305K 1130dX 1130fK 11311X 11313K 11329X 1132aK 11331X 11332K 11334X 11335K 1133aX",
   "1133bK 11345X 11347K 11349X 1134bK 1134eX 11350K 11351X 11357K 11358X 1135dK 11364X 11366K",
   "1136dX 11370K 11375X 11380K 1138aX 1138bK 1138cX 1138eK 1138fX 11390K 113b6X 113b7K 113c1X",
   "113c2K 113c3X 113c5K 113c6X 113c7K 113cbX 113ccK 113d6X 113d7K 113d9X 113e1K 113e3X 11400K",
   "1145cX 1145dK 11462X 11480K 114c8X 114d0K 114daX 11580K 115b6X 115b8K 115deX 11600K 11645X",
   "11650K 1165aX 11660K 1166dX 11680K 116baX 116c0K 116caX 116d0K 116e4X 11700K 1171bX 1171dK",
   "1172cX 11730K 11747X 11800K 1183cX 118a0S118c0 118c0K 118f3X 118ffK 11907X 11909K 1190aX",
   "1190cK 11914X 11915K 11917X 11918K 11936X 11937K 11939X 1193bK 11947X 11950K 1195aX 119a0K",
   "119a8X 119aaK 119d8X 119daK 119e5X 11a00K 11a48X 11a50K 11aa3X 11ab0K 11af9X 11b00K 11b0aX",
   "11b60K 11b68X 11bc0K 11be2X 11bf0K 11bfaX 11c00K 11c09X 11c0aK 11c37X 11c38K 11c46X 11c50K",
   "11c6dX 11c70K 11c90X 11c92K 11ca8X 11ca9K 11cb7X 11d00K 11d07X 11d08K 11d0aX 11d0bK 11d37X",
   "11d3aK 11d3bX 11d3cK 11d3eX 11d3fK 11d48X 11d50K 11d5aX 11d60K 11d66X 11d67K 11d69X 11d6aK",
   "11d8fX 11d90K 11d92X 11d93K 11d99X 11da0K 11daaX 11db0K 11ddcX 11de0K 11deaX 11ee0K 11ef9X",
   "11f00K 11f11X 11f12K 11f3bX 11f3eK 11f5bX 11fb0K 11fb1X 11fc0K 11ff2X 11fffK 1239aX 12400K",
   "1246fX 12470K 12475X 12480K 12544X 12f90K 12ff3X 13000K 13430X 13440K 13456X 13460K 143fbX",
   "14400K 14647X 16100K 1613aX 16800K 16a39X 16a40K 16a5fX 16a60K 16a6aX 16a6eK 16abfX 16ac0K",
   "16acaX 16ad0K 16aeeX 16af0K 16af6X 16b00K 16b46X 16b50K 16b5aX 16b5bK 16b62X 16b63K 16b78X",
   "16b7dK 16b90X 16d40K 16d7aX 16e40S16e60 16e60K 16e9bX 16ea0S16ebb 16eb9X 16ebbK 16ed4X 16f00K",
   "16f4bX 16f4fK 16f88X 16f8fK 16fa0X 16fe0K 16fe5X 16ff0K 16ff7X 17000K 18cd6X 18cffK 18d1fX",
   "18d80K 18df3X 1aff0K 1aff4X 1aff5K 1affcX 1affdK 1afffX 1b000K 1b123X 1b132K 1b133X 1b150K",
   "1b153X 1b155K 1b156X 1b164K 1b168X 1b170K 1b2fcX 1bc00K 1bc6bX 1bc70K 1bc7dX 1bc80K 1bc89X",
   "1bc90K 1bc9aX 1bc9cK 1bca0I 1bca4X 1cc00K 1ccd6S61 1ccf0S30 1ccfaK 1ccfdX 1cd00K 1ceb4X 1cebaK",
   "1ced1X 1cee0K 1cef1X 1cf00K 1cf2eX 1cf30K 1cf47X 1cf50K 1cfc4X 1d000K 1d0f6X 1d100K 1d127X",
   "1d129K 1d15eT1d157.1d165 1d15fT1d158.1d165 1d160T1d158.1d165.1d16e 1d161T1d158.1d165.1d16f",
   "1d162T1d158.1d165.1d170 1d163T1d158.1d165.1d171 1d164T1d158.1d165.1d172 1d165K 1d173I 1d17bK",
   "1d1bbT1d1b9.1d165 1d1bcT1d1ba.1d165 1d1bdT1d1b9.1d165.1d16e 1d1beT1d1ba.1d165.1d16e",
   "1d1bfT1d1b9.1d165.1d16f 1d1c0T1d1ba.1d165.1d16f 1d1c1K 1d1ebX 1d200K 1d246X 1d2c0K 1d2d4X",
   "1d2e0K 1d2f4X 1d300K 1d357X 1d360K 1d379X 1d400S61 1d41aS61 1d434S61 1d44eS61 1d455X 1d456S69",
   "1d468S61 1d482S61 1d49cT61 1d49dX 1d49eS63 1d4a0X 1d4a2T67 1d4a3X 1d4a5S6a 1d4a7X 1d4a9S6e",
   "1d4adX 1d4aeS73 1d4b6S61 1d4baX 1d4bbT66 1d4bcX 1d4bdS68 1d4c4X 1d4c5S70 1d4d0S61 1d4eaS61",
   "1d504S61 1d506X 1d507S64 1d50bX 1d50dS6a 1d515X 1d516S73 1d51dX 1d51eS61 1d538S61 1d53aX",
   "1d53bS64 1d53fX 1d540S69 1d545X 1d546T6f 1d547X 1d54aS73 1d551X 1d552S61 1d56cS61 1d586S61",
   "1d5a0S61 1d5baS61 1d5d4S61 1d5eeS61 1d608S61 1d622S61 1d63cS61 1d656S61 1d670S61 1d68aS61",
   "1d6a4T131 1d6a5T237 1d6a6X 1d6a8S3b1 1d6b9T3b8 1d6baS3c3 1d6c1T2207 1d6c2S3b1 1d6d3T3c3",
   "1d6d5S3c4 1d6dbT2202 1d6dcT3b5 1d6ddT3b8 1d6deT3ba 1d6dfT3c6 1d6e0T3c1 1d6e1T3c0 1d6e2S3b1",
   "1d6f3T3b8 1d6f4S3c3 1d6fbT2207 1d6fcS3b1 1d70dT3c3 1d70fS3c4 1d715T2202 1d716T3b5 1d717T3b8",
   "1d718T3ba 1d719T3c6 1d71aT3c1 1d71bT3c0 1d71cS3b1 1d72dT3b8 1d72eS3c3 1d735T2207 1d736S3b1",
   "1d747T3c3 1d749S3c4 1d74fT2202 1d750T3b5 1d751T3b8 1d752T3ba 1d753T3c6 1d754T3c1 1d755T3c0",
   "1d756S3b1 1d767T3b8 1d768S3c3 1d76fT2207 1d770S3b1 1d781T3c3 1d783S3c4 1d789T2202 1d78aT3b5",
   "1d78bT3b8 1d78cT3ba 1d78dT3c6 1d78eT3c1 1d78fT3c0 1d790S3b1 1d7a1T3b8 1d7a2S3c3 1d7a9T2207",
   "1d7aaS3b1 1d7bbT3c3 1d7bdS3c4 1d7c3T2202 1d7c4T3b5 1d7c5T3b8 1d7c6T3ba 1d7c7T3c6 1d7c8T3c1",
   "1d7c9T3c0 1d7caT3dd 1d7ccX 1d7ceS30 1d7d8S30 1d7e2S30 1d7ecS30 1d7f6S30 1d800K 1da8cX 1da9bK",
   "1daa0X 1daa1K 1dab0X 1df00K 1df1fX 1df25K 1df2bX 1e000K 1e007X 1e008K 1e019X 1e01bK 1e022X",
   "1e023K 1e025X 1e026K 1e02bX 1e030S430 1e039S43a 1e03cS43e 1e047T44b 1e048S44d 1e04aTa689",
   "1e04bT4d9 1e04cT456 1e04dT458 1e04eT4e9 1e04fT4af 1e050T4cf 1e051S430 1e05aS43a 1e05cS43e",
   "1e05eT441 1e05fS443 1e065S44a 1e067T491 1e068T456 1e069T455 1e06aT45f 1e06bT4ab 1e06cTa651",
   "1e06dT4b1 1e06eX 1e08fK 1e090X 1e100K 1e12dX 1e130K 1e13eX 1e140K 1e14aX 1e14eK 1e150X 1e290K",
   "1e2afX 1e2c0K 1e2faX 1e2ffK 1e300X 1e4d0K 1e4faX 1e5d0K 1e5fbX 1e5ffK 1e600X 1e6c0K 1e6dfX",
   "1e6e0K 1e6f6X 1e6feK 1e700X 1e7e0K 1e7e7X 1e7e8K 1e7ecX 1e7edK 1e7efX 1e7f0K 1e7ffX 1e800K",
   "1e8c5X 1e8c7K 1e8d7X 1e900S1e922 1e922K 1e94cX 1e950K 1e95aX 1e95eK 1e960X 1ec71K 1ecb5X",
   "1ed01K 1ed3eX 1ee00S627 1ee02T62c 1ee03T62f 1ee04X 1ee05T648 1ee06T632 1ee07T62d 1ee08T637",
   "1ee09T64a 1ee0aS643 1ee0eT633 1ee0fT639 1ee10T641 1ee11T635 1ee12T642 1ee13T631 1ee14T634",
   "1ee15S62a 1ee17T62e 1ee18T630 1ee19T636 1ee1aT638 1ee1bT63a 1ee1cT66e 1ee1dT6ba 1ee1eT6a1",
   "1ee1fT66f 1ee20X 1ee21T628 1ee22T62c 1ee23X 1ee24T647 1ee25X 1ee27T62d 1ee28X 1ee29T64a",
   "1ee2aS643 1ee2eT633 1ee2fT639 1ee30T641 1ee31T635 1ee32T642 1ee33X 1ee34T634 1ee35S62a",
   "1ee37T62e 1ee38X 1ee39T636 1ee3aX 1ee3bT63a 1ee3cX 1ee42T62c 1ee43X 1ee47T62d 1ee48X 1ee49T64a",
   "1ee4aX 1ee4bT644 1ee4cX 1ee4dT646 1ee4eT633 1ee4fT639 1ee50X 1ee51T635 1ee52T642 1ee53X",
   "1ee54T634 1ee55X 1ee57T62e 1ee58X 1ee59T636 1ee5aX 1ee5bT63a 1ee5cX 1ee5dT6ba 1ee5eX 1ee5fT66f",
   "1ee60X 1ee61T628 1ee62T62c 1ee63X 1ee64T647 1ee65X 1ee67T62d 1ee68T637 1ee69T64a 1ee6aT643",
   "1ee6bX 1ee6cS645 1ee6eT633 1ee6fT639 1ee70T641 1ee71T635 1ee72T642 1ee73X 1ee74T634 1ee75S62a",
   "1ee77T62e 1ee78X 1ee79T636 1ee7aT638 1ee7bT63a 1ee7cT66e 1ee7dX 1ee7eT6a1 1ee7fX 1ee80S627",
   "1ee82T62c 1ee83T62f 1ee84S647 1ee86T632 1ee87T62d 1ee88T637 1ee89T64a 1ee8aX 1ee8bS644",
   "1ee8eT633 1ee8fT639 1ee90T641 1ee91T635 1ee92T642 1ee93T631 1ee94T634 1ee95S62a 1ee97T62e",
   "1ee98T630 1ee99T636 1ee9aT638 1ee9bT63a 1ee9cX 1eea1T628 1eea2T62c 1eea3T62f 1eea4X 1eea5T648",
   "1eea6T632 1eea7T62d 1eea8T637 1eea9T64a 1eeaaX 1eeabS644 1eeaeT633 1eeafT639 1eeb0T641",
   "1eeb1T635 1eeb2T642 1eeb3T631 1eeb4T634 1eeb5S62a 1eeb7T62e 1eeb8T630 1eeb9T636 1eebaT638",
   "1eebbT63a 1eebcX 1eef0K 1eef2X 1f000K 1f02cX 1f030K 1f094X 1f0a0K 1f0afX 1f0b1K 1f0c0X 1f0c1K",
   "1f0d0X 1f0d1K 1f0f6X 1f101T30.2c 1f102T31.2c 1f103T32.2c 1f104T33.2c 1f105T34.2c 1f106T35.2c",
   "1f107T36.2c 1f108T37.2c 1f109T38.2c 1f10aT39.2c 1f10bK 1f110T28.61.29 1f111T28.62.29",
   "1f112T28.63.29 1f113T28.64.29 1f114T28.65.29 1f115T28.66.29 1f116T28.67.29 1f117T28.68.29",
   "1f118T28.69.29 1f119T28.6a.29 1f11aT28.6b.29 1f11bT28.6c.29 1f11cT28.6d.29 1f11dT28.6e.29",
   "1f11eT28.6f.29 1f11fT28.70.29 1f120T28.71.29 1f121T28.72.29 1f122T28.73.29 1f123T28.74.29",
   "1f124T28.75.29 1f125T28.76.29 1f126T28.77.29 1f127T28.78.29 1f128T28.79.29 1f129T28.7a.29",
   "1f12aT3014.73.3015 1f12bT63 1f12cT72 1f12dT63.64 1f12eT77.7a 1f12fK 1f130S61 1f14aT68.76",
   "1f14bT6d.76 1f14cT73.64 1f14dT73.73 1f14eT70.70.76 1f14fT77.63 1f150K 1f16aT6d.63 1f16bT6d.64",
   "1f16cT6d.72 1f16dK 1f190T64.6a 1f191K 1f1aeX 1f1e6K 1f200T307b.304b 1f201T30b3.30b3 1f202T30b5",
   "1f203X 1f210T624b 1f211T5b57 1f212T53cc 1f213T30c7 1f214T4e8c 1f215T591a 1f216T89e3 1f217T5929",
   "1f218T4ea4 1f219T6620 1f21aT7121 1f21bT6599 1f21cT524d 1f21dT5f8c 1f21eT518d 1f21fT65b0",
   "1f220T521d 1f221T7d42 1f222T751f 1f223T8ca9 1f224T58f0 1f225T5439 1f226T6f14 1f227T6295",
   "1f228T6355 1f229T4e00 1f22aT4e09 1f22bT904a 1f22cT5de6 1f22dT4e2d 1f22eT53f3 1f22fT6307",
   "1f230T8d70 1f231T6253 1f232T7981 1f233T7a7a 1f234T5408 1f235T6e80 1f236T6709 1f237T6708",
   "1f238T7533 1f239T5272 1f23aT55b6 1f23bT914d 1f23cX 1f240T3014.672c.3015 1f241T3014.4e09.3015",
   "1f242T3014.4e8c.3015 1f243T3014.5b89.3015 1f244T3014.70b9.3015 1f245T3014.6253.3015",
   "1f246T3014.76d7.3015 1f247T3014.52dd.3015 1f248T3014.6557.3015 1f249X 1f250T5f97 1f251T53ef",
   "1f252X 1f260K 1f266X 1f300K 1f6d9X 1f6dcK 1f6edX 1f6f0K 1f6fdX 1f700K 1f7daX 1f7e0K 1f7ecX",
   "1f7f0K 1f7f1X 1f800K 1f80cX 1f810K 1f848X 1f850K 1f85aX 1f860K 1f888X 1f890K 1f8aeX 1f8b0K",
   "1f8bcX 1f8c0K 1f8c2X 1f8d0K 1f8d9X 1f900K 1fa58X 1fa60K 1fa6eX 1fa70K 1fa7dX 1fa80K 1fa8bX",
   "1fa8eK 1fac7X 1fac8K 1fac9X 1facdK 1faddX 1fadfK 1faebX 1faefK 1faf9X 1fb00K 1fb93X 1fb94K",
   "1fbf0S30 1fbfaK 1fbfbX 20000K 2a6e0X 2a700K 2b81eX 2b820K 2ceaeX 2ceb0K 2ebe1X 2ebf0K 2ee5eX",
   "2f800T4e3d 2f801T4e38 2f802T4e41 2f803T20122 2f804T4f60 2f805T4fae 2f806T4fbb 2f807T5002",
   "2f808T507a 2f809T5099 2f80aT50e7 2f80bT50cf 2f80cT349e 2f80dT2063a 2f80eT514d 2f80fT5154",
   "2f810T5164 2f811T5177 2f812T2051c 2f813T34b9 2f814T5167 2f815T518d 2f816T2054b 2f817T5197",
   "2f818T51a4 2f819T4ecc 2f81aT51ac 2f81bT51b5 2f81cT291df 2f81dT51f5 2f81eT5203 2f81fT34df",
   "2f820T523b 2f821T5246 2f822T5272 2f823T5277 2f824T3515 2f825T52c7 2f826T52c9 2f827T52e4",
   "2f828T52fa 2f829S5305 2f82bT5317 2f82cT5349 2f82dT5351 2f82eT535a 2f82fT5373 2f830T537d",
   "2f831T537f 2f834T20a2c 2f835T7070 2f836T53ca 2f837T53df 2f838T20b63 2f839T53eb 2f83aT53f1",
   "2f83bT5406 2f83cT549e 2f83dT5438 2f83eT5448 2f83fT5468 2f840T54a2 2f841T54f6 2f842T5510",
   "2f843T5553 2f844T5563 2f845T5584 2f847T5599 2f848T55ab 2f849T55b3 2f84aT55c2 2f84bT5716",
   "2f84cT5606 2f84dT5717 2f84eT5651 2f84fT5674 2f850T5207 2f851T58ee 2f852T57ce 2f853T57f4",
   "2f854T580d 2f855T578b 2f856T5832 2f857T5831 2f858T58ac 2f859T214e4 2f85aT58f2 2f85bT58f7",
   "2f85cT5906 2f85dT591a 2f85eT5922 2f85fT5962 2f860T216a8 2f861T216ea 2f862T59ec 2f863T5a1b",
   "2f864T5a27 2f865T59d8 2f866T5a66 2f867T36ee 2f868T36fc 2f869T5b08 2f86aT5b3e 2f86cT219c8",
   "2f86dT5bc3 2f86eT5bd8 2f86fT5be7 2f870T5bf3 2f871T21b18 2f872T5bff 2f873T5c06 2f874T5f53",
   "2f875T5c22 2f876T3781 2f877T5c60 2f878T5c6e 2f879T5cc0 2f87aT5c8d 2f87bT21de4 2f87cT5d43",
   "2f87dT21de6 2f87eT5d6e 2f87fT5d6b 2f880T5d7c 2f881S5de1 2f883T382f 2f884T5dfd 2f885T5e28",
   "2f886T5e3d 2f887T5e69 2f888T3862 2f889T22183 2f88aT387c 2f88bT5eb0 2f88cT5eb3 2f88dT5eb6",
   "2f88eT5eca 2f88fT2a392 2f890T5efe 2f891T22331 2f893T8201 2f894T5f22 2f896T38c7 2f897T232b8",
   "2f898T261da 2f899T5f62 2f89aT5f6b 2f89bT38e3 2f89cT5f9a 2f89dT5fcd 2f89eT5fd7 2f89fT5ff9",
   "2f8a0T6081 2f8a1T393a 2f8a2T391c 2f8a3T6094 2f8a4T226d4 2f8a5T60c7 2f8a6T6148 2f8a7T614c",
   "2f8a8T614e 2f8a9T614c 2f8aaT617a 2f8abT618e 2f8acT61b2 2f8adT61a4 2f8aeT61af 2f8afT61de",
   "2f8b0T61f2 2f8b1T61f6 2f8b2T6210 2f8b3T621b 2f8b4T625d 2f8b5T62b1 2f8b6T62d4 2f8b7T6350",
   "2f8b8T22b0c 2f8b9T633d 2f8baT62fc 2f8bbT6368 2f8bcT6383 2f8bdT63e4 2f8beT22bf1 2f8bfT6422",
   "2f8c0T63c5 2f8c1T63a9 2f8c2T3a2e 2f8c3T6469 2f8c4T647e 2f8c5T649d 2f8c6T6477 2f8c7T3a6c",
   "2f8c8T654f 2f8c9T656c 2f8caT2300a 2f8cbT65e3 2f8ccT66f8 2f8cdT6649 2f8ceT3b19 2f8cfT6691",
   "2f8d0T3b08 2f8d1T3ae4 2f8d2T5192 2f8d3T5195 2f8d4T6700 2f8d5T669c 2f8d6T80ad 2f8d7T43d9",
   "2f8d8T6717 2f8d9T671b 2f8daT6721 2f8dbT675e 2f8dcT6753 2f8ddT233c3 2f8deT3b49 2f8dfT67fa",
   "2f8e0T6785 2f8e1T6852 2f8e2T6885 2f8e3T2346d 2f8e4T688e 2f8e5T681f 2f8e6T6914 2f8e7T3b9d",
   "2f8e8T6942 2f8e9T69a3 2f8eaT69ea 2f8ebT6aa8 2f8ecT236a3 2f8edT6adb 2f8eeT3c18 2f8efT6b21",
   "2f8f0T238a7 2f8f1T6b54 2f8f2T3c4e 2f8f3T6b72 2f8f4T6b9f 2f8f5S6bba 2f8f7T23a8d 2f8f8T21d0b",
   "2f8f9T23afa 2f8faT6c4e 2f8fbT23cbc 2f8fcT6cbf 2f8fdT6ccd 2f8feT6c67 2f8ffT6d16 2f900T6d3e",
   "2f901T6d77 2f902T6d41 2f903T6d69 2f904T6d78 2f905T6d85 2f906T23d1e 2f907T6d34 2f908T6e2f",
   "2f909T6e6e 2f90aT3d33 2f90bT6ecb 2f90cT6ec7 2f90dT23ed1 2f90eT6df9 2f90fT6f6e 2f910T23f5e",
   "2f911T23f8e 2f912T6fc6 2f913T7039 2f914T701e 2f915T701b 2f916T3d96 2f917T704a 2f918T707d",
   "2f919T7077 2f91aT70ad 2f91bT20525 2f91cT7145 2f91dT24263 2f91eT719c 2f91fT243ab 2f920T7228",
   "2f921T7235 2f922T7250 2f923T24608 2f924T7280 2f925T7295 2f926T24735 2f927T24814 2f928T737a",
   "2f929T738b 2f92aT3eac 2f92bT73a5 2f92cT3eb8 2f92eT7447 2f92fT745c 2f930T7471 2f931T7485",
   "2f932T74ca 2f933T3f1b 2f934T7524 2f935T24c36 2f936T753e 2f937T24c92 2f938T7570 2f939T2219f",
   "2f93aT7610 2f93bT24fa1 2f93cT24fb8 2f93dT25044 2f93eT3ffc 2f93fT4008 2f940T76f4 2f941T250f3",
   "2f942T250f2 2f943T25119 2f944T25133 2f945S771e 2f947T771f 2f948T774a 2f949T4039 2f94aT778b",
   "2f94bT4046 2f94cT4096 2f94dT2541d 2f94eT784e 2f94fT788c 2f950T78cc 2f951T40e3 2f952T25626",
   "2f953T7956 2f954T2569a 2f955T256c5 2f956T798f 2f957T79eb 2f958T412f 2f959T7a40 2f95aT7a4a",
   "2f95bT7a4f 2f95cT2597c 2f95dT25aa7 2f95fT7aee 2f960T4202 2f961T25bab 2f962T7bc6 2f963T7bc9",
   "2f964T4227 2f965T25c80 2f966T7cd2 2f967T42a0 2f968T7ce8 2f969T7ce3 2f96aT7d00 2f96bT25f86",
   "2f96cT7d63 2f96dT4301 2f96eT7dc7 2f96fT7e02 2f970T7e45 2f971T4334 2f972T26228 2f973T26247",
   "2f974T4359 2f975T262d9 2f976T7f7a 2f977T2633e 2f978T7f95 2f979T7ffa 2f97aT8005 2f97bT264da",
   "2f97cT26523 2f97dT8060 2f97eT265a8 2f97fT8070 2f980T2335f 2f981T43d5 2f982T80b2 2f983T8103",
   "2f984T440b 2f985T813e 2f986T5ab5 2f987T267a7 2f988T267b5 2f989T23393 2f98aT2339c 2f98bT8201",
   "2f98cT8204 2f98dT8f9e 2f98eT446b 2f98fT8291 2f990T828b 2f991T829d 2f992T52b3 2f993T82b1",
   "2f994T82b3 2f995T82bd 2f996T82e6 2f997T26b3c 2f998T82e5 2f999T831d 2f99aT8363 2f99bT83ad",
   "2f99cT8323 2f99dT83bd 2f99eT83e7 2f99fT8457 2f9a0T8353 2f9a1T83ca 2f9a2T83cc 2f9a3T83dc",
   "2f9a4T26c36 2f9a5T26d6b 2f9a6T26cd5 2f9a7T452b 2f9a8T84f1 2f9a9T84f3 2f9aaT8516 2f9abT273ca",
   "2f9acT8564 2f9adT26f2c 2f9aeT455d 2f9afT4561 2f9b0T26fb1 2f9b1T270d2 2f9b2T456b 2f9b3T8650",
   "2f9b4T865c 2f9b5T8667 2f9b6T8669 2f9b7T86a9 2f9b8T8688 2f9b9T870e 2f9baT86e2 2f9bbT8779",
   "2f9bcT8728 2f9bdT876b 2f9beT8786 2f9bfT45d7 2f9c0T87e1 2f9c1T8801 2f9c2T45f9 2f9c3T8860",
   "2f9c4T8863 2f9c5T27667 2f9c6T88d7 2f9c7T88de 2f9c8T4635 2f9c9T88fa 2f9caT34bb 2f9cbT278ae",
   "2f9ccT27966 2f9cdT46be 2f9ceT46c7 2f9cfT8aa0 2f9d0T8aed 2f9d1T8b8a 2f9d2T8c55 2f9d3T27ca8",
   "2f9d4T8cab 2f9d5T8cc1 2f9d6T8d1b 2f9d7T8d77 2f9d8T27f2f 2f9d9T20804 2f9daT8dcb 2f9dbT8dbc",
   "2f9dcT8df0 2f9ddT208de 2f9deT8ed4 2f9dfT8f38 2f9e0T285d2 2f9e1T285ed 2f9e2T9094 2f9e3T90f1",
   "2f9e4T9111 2f9e5T2872e 2f9e6T911b 2f9e7T9238 2f9e8S92d7 2f9eaT927c 2f9ebT93f9 2f9ecT9415",
   "2f9edT28bfa 2f9eeT958b 2f9efT4995 2f9f0T95b7 2f9f1T28d77 2f9f2T49e6 2f9f3T96c3 2f9f4T5db2",
   "2f9f5T9723 2f9f6T29145 2f9f7T2921a 2f9f8T4a6e 2f9f9T4a76 2f9faT97e0 2f9fbT2940a 2f9fcT4ab2",
   "2f9fdT29496 2f9feT980b 2fa00T9829 2fa01T295b6 2fa02T98e2 2fa03T4b33 2fa04T9929 2fa05T99a7",
   "2fa06T99c2 2fa07T99fe 2fa08T4bce 2fa09T29b30 2fa0aT9b12 2fa0bT9c40 2fa0cT9cfd 2fa0dT4cce",
   "2fa0eT4ced 2fa0fT9d67 2fa10T2a0ce 2fa11T4cf8 2fa12T2a105 2fa13T2a20e 2fa14T2a291 2fa15T9ebb",
   "2fa16T4d56 2fa17T9ef9 2fa18T9efe 2fa19T9f05 2fa1aT9f0f 2fa1bT9f16 2fa1cT9f3b 2fa1dT2a600",
   "2fa1eX 30000K 3134bX 31350K 3347aX e0100I e01f0X"]

def ofWord : List Char → Treatment
  | 'K' :: _ => .kept
  | 'I' :: _ => .ignored
  | 'T' :: cs =>
    .text (((Text.splitAt '.' cs).filterMap (Text.ofDigits? 16)).map Char.ofNat)
  | 'S' :: cs => .shifted ((Text.ofDigits? 16 cs).getD 0)
  | 'A' :: _ => .paired
  | _ => .refused

def table : Table Treatment :=
  .ofLines ofWord lines

/-- What a character becomes that stands `offset` behind the entry of its treatment. -/
def result? (c : Char) (offset : Nat) : Treatment → Option (List Char)
  | .kept => some [c]
  | .ignored => some []
  | .refused => none
  | .text cs => some cs
  | .shifted target => some [Char.ofNat (target + offset)]
  | .paired => some [if offset % 2 = 0 then Char.ofNat (c.toNat + 1) else c]

end Treatment

/-- What a character becomes in a domain name; none if no name has it. -/
def domainForm? (c : Char) : Option (List Char) := do
  let (start, treatment) ← Treatment.table.lookup? c.toNat
  treatment.result? c (c.toNat - start)

/-- Whether a character stands for itself in a domain name. -/
def isDomainForm (c : Char) : Bool :=
  domainForm? c == some [c]

end Logline.Unicode
