import Logline.Unicode.Table
/-!
Marks: characters of the general category `M`, which attach to the character in front of them.
-/
namespace Logline.Unicode

/-- Entries with `M` where marks begin and `O` where others do. -/
def markLines : List String :=
  ["0O 300M 370O 483M 48aO 591M 5beO 5bfM 5c0O 5c1M 5c3O 5c4M 5c6O 5c7M 5d0O 610M 61bO 64bM 660O",
   "670M 671O 6d6M 6ddO 6dfM 6e5O 6e7M 6e9O 6eaM 6eeO 711M 712O 730M 74dO 7a6M 7b1O 7ebM 7f4O 7fdM",
   "7feO 816M 81aO 81bM 824O 825M 828O 829M 830O 859M 85eO 897M 8a0O 8caM 8e2O 8e3M 904O 93aM 93dO",
   "93eM 950O 951M 958O 962M 964O 981M 985O 9bcM 9bdO 9beM 9ceO 9d7M 9dcO 9e2M 9e6O 9feM a05O a3cM",
   "a59O a70M a72O a75M a76O a81M a85O abcM abdO abeM ad0O ae2M ae6O afaM b05O b3cM b3dO b3eM b5cO",
   "b62M b66O b82M b83O bbeM bd0O bd7M be6O c00M c05O c3cM c3dO c3eM c58O c62M c66O c81M c84O cbcM",
   "cbdO cbeM cdcO ce2M ce6O cf3M d04O d3bM d3dO d3eM d4eO d57M d58O d62M d66O d81M d85O dcaM de6O",
   "df2M df4O e31M e32O e34M e3fO e47M e4fO eb1M eb2O eb4M ebdO ec8M ed0O f18M f1aO f35M f36O f37M",
   "f38O f39M f3aO f3eM f40O f71M f85O f86M f88O f8dM fbeO fc6M fc7O 102bM 103fO 1056M 105aO 105eM",
   "1061O 1062M 1065O 1067M 106eO 1071M 1075O 1082M 108eO 108fM 1090O 109aM 109eO 135dM 1360O",
   "1712M 171fO 1732M 1735O 1752M 1760O 1772M 1780O 17b4M 17d4O 17ddM 17e0O 180bM 180eO 180fM",
   "1810O 1885M 1887O 18a9M 18aaO 1920M 1940O 1a17M 1a1eO 1a55M 1a80O 1ab0M 1b05O 1b34M 1b45O",
   "1b6bM 1b74O 1b80M 1b83O 1ba1M 1baeO 1be6M 1bfcO 1c24M 1c3bO 1cd0M 1cd3O 1cd4M 1ce9O 1cedM",
   "1ceeO 1cf4M 1cf5O 1cf7M 1cfaO 1dc0M 1e00O 20d0M 2100O 2cefM 2cf2O 2d7fM 2d80O 2de0M 2e00O",
   "302aM 3030O 3099M 309bO a66fM a673O a674M a67eO a69eM a6a0O a6f0M a6f2O a802M a803O a806M",
   "a807O a80bM a80cO a823M a828O a82cM a830O a880M a882O a8b4M a8ceO a8e0M a8f2O a8ffM a900O",
   "a926M a92eO a947M a95fO a980M a984O a9b3M a9c1O a9e5M a9e6O aa29M aa40O aa43M aa44O aa4cM",
   "aa50O aa7bM aa7eO aab0M aab1O aab2M aab5O aab7M aab9O aabeM aac0O aac1M aac2O aaebM aaf0O",
   "aaf5M ab01O abe3M abebO abecM abf0O fb1eM fb1fO fe00M fe10O fe20M fe30O 101fdM 10280O 102e0M",
   "102e1O 10376M 10380O 10a01M 10a10O 10a38M 10a40O 10ae5M 10aebO 10d24M 10d30O 10d69M 10d6eO",
   "10eabM 10eadO 10efaM 10f00O 10f46M 10f51O 10f82M 10f86O 11000M 11003O 11038M 11047O 11070M",
   "11071O 11073M 11075O 1107fM 11083O 110b0M 110bbO 110c2M 110cdO 11100M 11103O 11127M 11136O",
   "11145M 11147O 11173M 11174O 11180M 11183O 111b3M 111c1O 111c9M 111cdO 111ceM 111d0O 1122cM",
   "11238O 1123eM 1123fO 11241M 11280O 112dfM 112f0O 11300M 11305O 1133bM 1133dO 1133eM 11350O",
   "11357M 1135dO 11362M 11380O 113b8M 113d1O 113d2M 113d3O 113e1M 11400O 11435M 11447O 1145eM",
   "1145fO 114b0M 114c4O 115afM 115c1O 115dcM 11600O 11630M 11641O 116abM 116b8O 1171dM 11730O",
   "1182cM 1183bO 11930M 1193fO 11940M 11941O 11942M 11944O 119d1M 119e1O 119e4M 11a00O 11a01M",
   "11a0bO 11a33M 11a3aO 11a3bM 11a3fO 11a47M 11a50O 11a51M 11a5cO 11a8aM 11a9aO 11b60M 11bc0O",
   "11c2fM 11c40O 11c92M 11d00O 11d31M 11d46O 11d47M 11d50O 11d8aM 11d98O 11ef3M 11ef7O 11f00M",
   "11f02O 11f03M 11f04O 11f34M 11f43O 11f5aM 11fb0O 13440M 13441O 13447M 13460O 1611eM 16130O",
   "16af0M 16af5O 16b30M 16b37O 16f4fM 16f50O 16f51M 16f93O 16fe4M 16ff2O 1bc9dM 1bc9fO 1cf00M",
   "1cf50O 1d165M 1d16aO 1d16dM 1d173O 1d17bM 1d183O 1d185M 1d18cO 1d1aaM 1d1aeO 1d242M 1d245O",
   "1da00M 1da37O 1da3bM 1da6dO 1da75M 1da76O 1da84M 1da85O 1da9bM 1df00O 1e000M 1e030O 1e08fM",
   "1e100O 1e130M 1e137O 1e2aeM 1e2c0O 1e2ecM 1e2f0O 1e4ecM 1e4f0O 1e5eeM 1e5f0O 1e6e3M 1e6e4O",
   "1e6e6M 1e6e7O 1e6eeM 1e6f0O 1e6f5M 1e6feO 1e8d0M 1e900O 1e944M 1e94bO e0100M f0000O"]

def markTable : Table Bool :=
  .ofLines (· == ['M']) markLines

def isMark (c : Char) : Bool :=
  markTable.value false c.toNat

end Logline.Unicode
