set_option autoImplicit false

/-! # Directions of characters

Data of the Unicode standard: the bidirectional class of each character.
-/

namespace LogEgress.Url.Domain.Direction

/-- The segments of characters with one class: the first code point, and the short name of the
class, which is left out for separators and for what embeds or isolates a text. -/
def lines : List String := [
  "0:BN 9 e:BN 1c 21:ON 23:ET 26:ON 2b:ES 2c:CS 2d:ES 2e:CS 30:EN 3a:CS 3b:ON 41:L 5b:ON 61:L",
  "7b:ON 7f:BN 85 86:BN a0:CS a1:ON a2:ET a6:ON aa:L ab:ON ad:BN ae:ON b0:ET b2:EN b4:ON b5:L",
  "b6:ON b9:EN ba:L bb:ON c0:L d7:ON d8:L f7:ON f8:L 2b9:ON 2bb:L 2c2:ON 2d0:L 2d2:ON 2e0:L",
  "2e5:ON 2ee:L 2ef:ON 300:NSM 370:L 374:ON 376:L 37e:ON 37f:L 384:ON 386:L 387:ON 388:L 3f6:ON",
  "3f7:L 483:NSM 48a:L 58a:ON 58b:L 58d:ON 58f:ET 590:R 591:NSM 5be:R 5bf:NSM 5c0:R 5c1:NSM 5c3:R",
  "5c4:NSM 5c6:R 5c7:NSM 5c8:R 600:AN 606:ON 608:AL 609:ET 60b:AL 60c:CS 60d:AL 60e:ON 610:NSM",
  "61b:AL 64b:NSM 660:AN 66a:ET 66b:AN 66d:AL 670:NSM 671:AL 6d6:NSM 6dd:AN 6de:ON 6df:NSM 6e5:AL",
  "6e7:NSM 6e9:ON 6ea:NSM 6ee:AL 6f0:EN 6fa:AL 711:NSM 712:AL 730:NSM 74b:AL 7a6:NSM 7b1:AL 7c0:R",
  "7eb:NSM 7f4:R 7f6:ON 7fa:R 7fd:NSM 7fe:R 816:NSM 81a:R 81b:NSM 824:R 825:NSM 828:R 829:NSM",
  "82e:R 859:NSM 85c:R 860:AL 890:AN 892:AL 897:NSM 8a0:AL 8ca:NSM 8e2:AN 8e3:NSM 903:L 93a:NSM",
  "93b:L 93c:NSM 93d:L 941:NSM 949:L 94d:NSM 94e:L 951:NSM 958:L 962:NSM 964:L 981:NSM 982:L",
  "9bc:NSM 9bd:L 9c1:NSM 9c5:L 9cd:NSM 9ce:L 9e2:NSM 9e4:L 9f2:ET 9f4:L 9fb:ET 9fc:L 9fe:NSM",
  "9ff:L a01:NSM a03:L a3c:NSM a3d:L a41:NSM a43:L a47:NSM a49:L a4b:NSM a4e:L a51:NSM a52:L",
  "a70:NSM a72:L a75:NSM a76:L a81:NSM a83:L abc:NSM abd:L ac1:NSM ac6:L ac7:NSM ac9:L acd:NSM",
  "ace:L ae2:NSM ae4:L af1:ET af2:L afa:NSM b00:L b01:NSM b02:L b3c:NSM b3d:L b3f:NSM b40:L",
  "b41:NSM b45:L b4d:NSM b4e:L b55:NSM b57:L b62:NSM b64:L b82:NSM b83:L bc0:NSM bc1:L bcd:NSM",
  "bce:L bf3:ON bf9:ET bfa:ON bfb:L c00:NSM c01:L c04:NSM c05:L c3c:NSM c3d:L c3e:NSM c41:L",
  "c46:NSM c49:L c4a:NSM c4e:L c55:NSM c57:L c62:NSM c64:L c78:ON c7f:L c81:NSM c82:L cbc:NSM",
  "cbd:L ccc:NSM cce:L ce2:NSM ce4:L d00:NSM d02:L d3b:NSM d3d:L d41:NSM d45:L d4d:NSM d4e:L",
  "d62:NSM d64:L d81:NSM d82:L dca:NSM dcb:L dd2:NSM dd5:L dd6:NSM dd7:L e31:NSM e32:L e34:NSM",
  "e3b:L e3f:ET e40:L e47:NSM e4f:L eb1:NSM eb2:L eb4:NSM ebd:L ec8:NSM ecf:L f18:NSM f1a:L",
  "f35:NSM f36:L f37:NSM f38:L f39:NSM f3a:ON f3e:L f71:NSM f7f:L f80:NSM f85:L f86:NSM f88:L",
  "f8d:NSM f98:L f99:NSM fbd:L fc6:NSM fc7:L 102d:NSM 1031:L 1032:NSM 1038:L 1039:NSM 103b:L",
  "103d:NSM 103f:L 1058:NSM 105a:L 105e:NSM 1061:L 1071:NSM 1075:L 1082:NSM 1083:L 1085:NSM",
  "1087:L 108d:NSM 108e:L 109d:NSM 109e:L 135d:NSM 1360:L 1390:ON 139a:L 1400:ON 1401:L 1680",
  "1681:L 169b:ON 169d:L 1712:NSM 1715:L 1732:NSM 1734:L 1752:NSM 1754:L 1772:NSM 1774:L 17b4:NSM",
  "17b6:L 17b7:NSM 17be:L 17c6:NSM 17c7:L 17c9:NSM 17d4:L 17db:ET 17dc:L 17dd:NSM 17de:L 17f0:ON",
  "17fa:L 1800:ON 180b:NSM 180e:BN 180f:NSM 1810:L 1885:NSM 1887:L 18a9:NSM 18aa:L 1920:NSM",
  "1923:L 1927:NSM 1929:L 1932:NSM 1933:L 1939:NSM 193c:L 1940:ON 1941:L 1944:ON 1946:L 19de:ON",
  "1a00:L 1a17:NSM 1a19:L 1a1b:NSM 1a1c:L 1a56:NSM 1a57:L 1a58:NSM 1a5f:L 1a60:NSM 1a61:L",
  "1a62:NSM 1a63:L 1a65:NSM 1a6d:L 1a73:NSM 1a7d:L 1a7f:NSM 1a80:L 1ab0:NSM 1ade:L 1ae0:NSM",
  "1aec:L 1b00:NSM 1b04:L 1b34:NSM 1b35:L 1b36:NSM 1b3b:L 1b3c:NSM 1b3d:L 1b42:NSM 1b43:L",
  "1b6b:NSM 1b74:L 1b80:NSM 1b82:L 1ba2:NSM 1ba6:L 1ba8:NSM 1baa:L 1bab:NSM 1bae:L 1be6:NSM",
  "1be7:L 1be8:NSM 1bea:L 1bed:NSM 1bee:L 1bef:NSM 1bf2:L 1c2c:NSM 1c34:L 1c36:NSM 1c38:L",
  "1cd0:NSM 1cd3:L 1cd4:NSM 1ce1:L 1ce2:NSM 1ce9:L 1ced:NSM 1cee:L 1cf4:NSM 1cf5:L 1cf8:NSM",
  "1cfa:L 1dc0:NSM 1e00:L 1fbd:ON 1fbe:L 1fbf:ON 1fc2:L 1fcd:ON 1fd0:L 1fdd:ON 1fe0:L 1fed:ON",
  "1ff0:L 1ffd:ON 1fff:L 2000 200b:BN 200e:L 200f:R 2010:ON 2028 202f:CS 2030:ET 2035:ON 2044:CS",
  "2045:ON 205f 2060:BN 2066 206a:BN 2070:EN 2071:L 2074:EN 207a:ES 207c:ON 207f:L 2080:EN",
  "208a:ES 208c:ON 208f:L 20a0:ET 20d0:NSM 20f1:L 2100:ON 2102:L 2103:ON 2107:L 2108:ON 210a:L",
  "2114:ON 2115:L 2116:ON 2119:L 211e:ON 2124:L 2125:ON 2126:L 2127:ON 2128:L 2129:ON 212a:L",
  "212e:ET 212f:L 213a:ON 213c:L 2140:ON 2145:L 214a:ON 214e:L 2150:ON 2160:L 2189:ON 218c:L",
  "2190:ON 2212:ES 2213:ET 2214:ON 2336:L 237b:ON 2395:L 2396:ON 242a:L 2440:ON 244b:L 2460:ON",
  "2488:EN 249c:L 24ea:ON 26ac:L 26ad:ON 2800:L 2900:ON 2b74:L 2b76:ON 2c00:L 2ce5:ON 2ceb:L",
  "2cef:NSM 2cf2:L 2cf9:ON 2d00:L 2d7f:NSM 2d80:L 2de0:NSM 2e00:ON 2e5e:L 2e80:ON 2e9a:L 2e9b:ON",
  "2ef4:L 2f00:ON 2fd6:L 2ff0:ON 3000 3001:ON 3005:L 3008:ON 3021:L 302a:NSM 302e:L 3030:ON",
  "3031:L 3036:ON 3038:L 303d:ON 3040:L 3099:NSM 309b:ON 309d:L 30a0:ON 30a1:L 30fb:ON 30fc:L",
  "31c0:ON 31e6:L 31ef:ON 31f0:L 321d:ON 321f:L 3250:ON 3260:L 327c:ON 327f:L 32b1:ON 32c0:L",
  "32cc:ON 32d0:L 3377:ON 337b:L 33de:ON 33e0:L 33ff:ON 3400:L 4dc0:ON 4e00:L a490:ON a4c7:L",
  "a60d:ON a610:L a66f:NSM a673:ON a674:NSM a67e:ON a680:L a69e:NSM a6a0:L a6f0:NSM a6f2:L",
  "a700:ON a722:L a788:ON a789:L a802:NSM a803:L a806:NSM a807:L a80b:NSM a80c:L a825:NSM a827:L",
  "a828:ON a82c:NSM a82d:L a838:ET a83a:L a874:ON a878:L a8c4:NSM a8c6:L a8e0:NSM a8f2:L a8ff:NSM",
  "a900:L a926:NSM a92e:L a947:NSM a952:L a980:NSM a983:L a9b3:NSM a9b4:L a9b6:NSM a9ba:L",
  "a9bc:NSM a9be:L a9e5:NSM a9e6:L aa29:NSM aa2f:L aa31:NSM aa33:L aa35:NSM aa37:L aa43:NSM",
  "aa44:L aa4c:NSM aa4d:L aa7c:NSM aa7d:L aab0:NSM aab1:L aab2:NSM aab5:L aab7:NSM aab9:L",
  "aabe:NSM aac0:L aac1:NSM aac2:L aaec:NSM aaee:L aaf6:NSM aaf7:L ab6a:ON ab6c:L abe5:NSM abe6:L",
  "abe8:NSM abe9:L abed:NSM abee:L fb1d:R fb1e:NSM fb1f:R fb29:ES fb2a:R fb50:AL fbc3:ON fbd3:AL",
  "fd3e:ON fd50:AL fd90:ON fd92:AL fdc8:ON fdd0:BN fdf0:AL fdfd:ON fe00:NSM fe10:ON fe1a:L",
  "fe20:NSM fe30:ON fe50:CS fe51:ON fe52:CS fe53:L fe54:ON fe55:CS fe56:ON fe5f:ET fe60:ON",
  "fe62:ES fe64:ON fe67:L fe68:ON fe69:ET fe6b:ON fe6c:L fe70:AL feff:BN ff00:L ff01:ON ff03:ET",
  "ff06:ON ff0b:ES ff0c:CS ff0d:ES ff0e:CS ff10:EN ff1a:CS ff1b:ON ff21:L ff3b:ON ff41:L ff5b:ON",
  "ff66:L ffe0:ET ffe2:ON ffe5:ET ffe7:L ffe8:ON ffef:L fff0:BN fff9:ON fffe:BN 10000:L 10101:ON",
  "10102:L 10140:ON 1018d:L 10190:ON 1019d:L 101a0:ON 101a1:L 101fd:NSM 101fe:L 102e0:NSM",
  "102e1:EN 102fc:L 10376:NSM 1037b:L 10800:R 1091f:ON 10920:R 10a01:NSM 10a04:R 10a05:NSM",
  "10a07:R 10a0c:NSM 10a10:R 10a38:NSM 10a3b:R 10a3f:NSM 10a40:R 10ae5:NSM 10ae7:R 10b39:ON",
  "10b40:R 10d00:AL 10d24:NSM 10d28:AL 10d30:AN 10d3a:AL 10d40:AN 10d4a:R 10d69:NSM 10d6e:ON",
  "10d6f:R 10e60:AN 10e7f:R 10eab:NSM 10ead:R 10ec0:AL 10ed0:ON 10ed9:AL 10efa:NSM 10f00:R",
  "10f30:AL 10f46:NSM 10f51:AL 10f70:R 10f82:NSM 10f86:R 11000:L 11001:NSM 11002:L 11038:NSM",
  "11047:L 11052:ON 11066:L 11070:NSM 11071:L 11073:NSM 11075:L 1107f:NSM 11082:L 110b3:NSM",
  "110b7:L 110b9:NSM 110bb:L 110c2:NSM 110c3:L 11100:NSM 11103:L 11127:NSM 1112c:L 1112d:NSM",
  "11135:L 11173:NSM 11174:L 11180:NSM 11182:L 111b6:NSM 111bf:L 111c9:NSM 111cd:L 111cf:NSM",
  "111d0:L 1122f:NSM 11232:L 11234:NSM 11235:L 11236:NSM 11238:L 1123e:NSM 1123f:L 11241:NSM",
  "11242:L 112df:NSM 112e0:L 112e3:NSM 112eb:L 11300:NSM 11302:L 1133b:NSM 1133d:L 11340:NSM",
  "11341:L 11366:NSM 1136d:L 11370:NSM 11375:L 113bb:NSM 113c1:L 113ce:NSM 113cf:L 113d0:NSM",
  "113d1:L 113d2:NSM 113d3:L 113e1:NSM 113e3:L 11438:NSM 11440:L 11442:NSM 11445:L 11446:NSM",
  "11447:L 1145e:NSM 1145f:L 114b3:NSM 114b9:L 114ba:NSM 114bb:L 114bf:NSM 114c1:L 114c2:NSM",
  "114c4:L 115b2:NSM 115b6:L 115bc:NSM 115be:L 115bf:NSM 115c1:L 115dc:NSM 115de:L 11633:NSM",
  "1163b:L 1163d:NSM 1163e:L 1163f:NSM 11641:L 11660:ON 1166d:L 116ab:NSM 116ac:L 116ad:NSM",
  "116ae:L 116b0:NSM 116b6:L 116b7:NSM 116b8:L 1171d:NSM 1171e:L 1171f:NSM 11720:L 11722:NSM",
  "11726:L 11727:NSM 1172c:L 1182f:NSM 11838:L 11839:NSM 1183b:L 1193b:NSM 1193d:L 1193e:NSM",
  "1193f:L 11943:NSM 11944:L 119d4:NSM 119d8:L 119da:NSM 119dc:L 119e0:NSM 119e1:L 11a01:NSM",
  "11a07:L 11a09:NSM 11a0b:L 11a33:NSM 11a39:L 11a3b:NSM 11a3f:L 11a47:NSM 11a48:L 11a51:NSM",
  "11a57:L 11a59:NSM 11a5c:L 11a8a:NSM 11a97:L 11a98:NSM 11a9a:L 11b60:NSM 11b61:L 11b62:NSM",
  "11b65:L 11b66:NSM 11b67:L 11c30:NSM 11c37:L 11c38:NSM 11c3e:L 11c92:NSM 11ca8:L 11caa:NSM",
  "11cb1:L 11cb2:NSM 11cb4:L 11cb5:NSM 11cb7:L 11d31:NSM 11d37:L 11d3a:NSM 11d3b:L 11d3c:NSM",
  "11d3e:L 11d3f:NSM 11d46:L 11d47:NSM 11d48:L 11d90:NSM 11d92:L 11d95:NSM 11d96:L 11d97:NSM",
  "11d98:L 11ef3:NSM 11ef5:L 11f00:NSM 11f02:L 11f36:NSM 11f3b:L 11f40:NSM 11f41:L 11f42:NSM",
  "11f43:L 11f5a:NSM 11f5b:L 11fd5:ON 11fdd:ET 11fe1:ON 11ff2:L 13440:NSM 13441:L 13447:NSM",
  "13456:L 1611e:NSM 1612a:L 1612d:NSM 16130:L 16af0:NSM 16af5:L 16b30:NSM 16b37:L 16f4f:NSM",
  "16f50:L 16f8f:NSM 16f93:L 16fe2:ON 16fe3:L 16fe4:NSM 16fe5:L 1bc9d:NSM 1bc9f:L 1bca0:BN",
  "1bca4:L 1cc00:ON 1ccd6:L 1ccf0:EN 1ccfa:ON 1ccfd:L 1cd00:ON 1ceb4:L 1ceba:ON 1ced1:L 1cee0:ON",
  "1cef1:L 1cf00:NSM 1cf2e:L 1cf30:NSM 1cf47:L 1d167:NSM 1d16a:L 1d173:BN 1d17b:NSM 1d183:L",
  "1d185:NSM 1d18c:L 1d1aa:NSM 1d1ae:L 1d1e9:ON 1d1eb:L 1d200:ON 1d242:NSM 1d245:ON 1d246:L",
  "1d300:ON 1d357:L 1d6c1:ON 1d6c2:L 1d6db:ON 1d6dc:L 1d6fb:ON 1d6fc:L 1d715:ON 1d716:L 1d735:ON",
  "1d736:L 1d74f:ON 1d750:L 1d76f:ON 1d770:L 1d789:ON 1d78a:L 1d7a9:ON 1d7aa:L 1d7c3:ON 1d7c4:L",
  "1d7ce:EN 1d800:L 1da00:NSM 1da37:L 1da3b:NSM 1da6d:L 1da75:NSM 1da76:L 1da84:NSM 1da85:L",
  "1da9b:NSM 1daa0:L 1daa1:NSM 1dab0:L 1e000:NSM 1e007:L 1e008:NSM 1e019:L 1e01b:NSM 1e022:L",
  "1e023:NSM 1e025:L 1e026:NSM 1e02b:L 1e08f:NSM 1e090:L 1e130:NSM 1e137:L 1e2ae:NSM 1e2af:L",
  "1e2ec:NSM 1e2f0:L 1e2ff:ET 1e300:L 1e4ec:NSM 1e4f0:L 1e5ee:NSM 1e5f0:L 1e6e3:NSM 1e6e4:L",
  "1e6e6:NSM 1e6e7:L 1e6ee:NSM 1e6f0:L 1e6f5:NSM 1e6f6:L 1e800:R 1e8d0:NSM 1e8d7:R 1e944:NSM",
  "1e94b:R 1ec70:AL 1ecc0:R 1ed00:AL 1ed50:R 1ee00:AL 1eef0:ON 1eef2:AL 1ef00:R 1f000:ON 1f02c:L",
  "1f030:ON 1f094:L 1f0a0:ON 1f0af:L 1f0b1:ON 1f0c0:L 1f0c1:ON 1f0d0:L 1f0d1:ON 1f0f6:L 1f100:EN",
  "1f10b:ON 1f110:L 1f12f:ON 1f130:L 1f16a:ON 1f170:L 1f1ad:ON 1f1ae:L 1f260:ON 1f266:L 1f300:ON",
  "1f6d9:L 1f6dc:ON 1f6ed:L 1f6f0:ON 1f6fd:L 1f700:ON 1f7da:L 1f7e0:ON 1f7ec:L 1f7f0:ON 1f7f1:L",
  "1f800:ON 1f80c:L 1f810:ON 1f848:L 1f850:ON 1f85a:L 1f860:ON 1f888:L 1f890:ON 1f8ae:L 1f8b0:ON",
  "1f8bc:L 1f8c0:ON 1f8c2:L 1f8d0:ON 1f8d9:L 1f900:ON 1fa58:L 1fa60:ON 1fa6e:L 1fa70:ON 1fa7d:L",
  "1fa80:ON 1fa8b:L 1fa8e:ON 1fac7:L 1fac8:ON 1fac9:L 1facd:ON 1fadd:L 1fadf:ON 1faeb:L 1faef:ON",
  "1faf9:L 1fb00:ON 1fb93:L 1fb94:ON 1fbf0:EN 1fbfa:ON 1fbfb:L 1fffe:BN 20000:L 2fffe:BN 30000:L",
  "3fffe:BN 40000:L 4fffe:BN 50000:L 5fffe:BN 60000:L 6fffe:BN 70000:L 7fffe:BN 80000:L 8fffe:BN",
  "90000:L 9fffe:BN a0000:L afffe:BN b0000:L bfffe:BN c0000:L cfffe:BN d0000:L dfffe:BN e0100:NSM",
  "e01f0:BN e1000:L"]

end LogEgress.Url.Domain.Direction
