/-!
# Letter case, the data

Maps between letters, as runs `first-last:image` whose characters go to consecutive images, and
`first~last:image` for every second character from the first to the last.  The data is that of
Unicode 16.
-/

set_option autoImplicit false

namespace GameJam
namespace Unicode

/-- The characters with a single lower-case form other than themselves. -/
def lowercaseRuns : List String := [
  "41-5A:61 C0-D6:E0 D8-DE:F8 100~12E:101 132~136:133 139~147:13A 14A~176:14B 178:FF",
  "179~17D:17A 181:253 182~184:183 186:254 187:188 189-18A:256 18B:18C 18E:1DD 18F:259 190:25B",
  "191:192 193:260 194:263 196:269 197:268 198:199 19C:26F 19D:272 19F:275 1A0~1A4:1A1 1A6:280",
  "1A7:1A8 1A9:283 1AC:1AD 1AE:288 1AF:1B0 1B1-1B2:28A 1B3~1B5:1B4 1B7:292 1B8:1B9 1BC:1BD",
  "1C4:1C6 1C5:1C6 1C7:1C9 1C8:1C9 1CA:1CC 1CB~1DB:1CC 1DE~1EE:1DF 1F1:1F3 1F2~1F4:1F3 1F6:195",
  "1F7:1BF 1F8~21E:1F9 220:19E 222~232:223 23A:2C65 23B:23C 23D:19A 23E:2C66 241:242 243:180",
  "244:289 245:28C 246~24E:247 370~372:371 376:377 37F:3F3 386:3AC 388-38A:3AD 38C:3CC",
  "38E-38F:3CD 391-3A1:3B1 3A3-3AB:3C3 3CF:3D7 3D8~3EE:3D9 3F4:3B8 3F7:3F8 3F9:3F2 3FA:3FB",
  "3FD-3FF:37B 400-40F:450 410-42F:430 460~480:461 48A~4BE:48B 4C0:4CF 4C1~4CD:4C2 4D0~52E:4D1",
  "531-556:561 10A0-10C5:2D00 10C7:2D27 10CD:2D2D 13A0-13EF:AB70 13F0-13F5:13F8 1C89:1C8A",
  "1C90-1CBA:10D0 1CBD-1CBF:10FD 1E00~1E94:1E01 1E9E:DF 1EA0~1EFE:1EA1 1F08-1F0F:1F00",
  "1F18-1F1D:1F10 1F28-1F2F:1F20 1F38-1F3F:1F30 1F48-1F4D:1F40 1F59~1F5F:1F51 1F68-1F6F:1F60",
  "1F88-1F8F:1F80 1F98-1F9F:1F90 1FA8-1FAF:1FA0 1FB8-1FB9:1FB0 1FBA-1FBB:1F70 1FBC:1FB3",
  "1FC8-1FCB:1F72 1FCC:1FC3 1FD8-1FD9:1FD0 1FDA-1FDB:1F76 1FE8-1FE9:1FE0 1FEA-1FEB:1F7A",
  "1FEC:1FE5 1FF8-1FF9:1F78 1FFA-1FFB:1F7C 1FFC:1FF3 2126:3C9 212A:6B 212B:E5 2132:214E",
  "2160-216F:2170 2183:2184 24B6-24CF:24D0 2C00-2C2F:2C30 2C60:2C61 2C62:26B 2C63:1D7D 2C64:27D",
  "2C67~2C6B:2C68 2C6D:251 2C6E:271 2C6F:250 2C70:252 2C72:2C73 2C75:2C76 2C7E-2C7F:23F",
  "2C80~2CE2:2C81 2CEB~2CED:2CEC 2CF2:2CF3 A640~A66C:A641 A680~A69A:A681 A722~A72E:A723",
  "A732~A76E:A733 A779~A77B:A77A A77D:1D79 A77E~A786:A77F A78B:A78C A78D:265 A790~A792:A791",
  "A796~A7A8:A797 A7AA:266 A7AB:25C A7AC:261 A7AD:26C A7AE:26A A7B0:29E A7B1:287 A7B2:29D",
  "A7B3:AB53 A7B4~A7C2:A7B5 A7C4:A794 A7C5:282 A7C6:1D8E A7C7~A7C9:A7C8 A7CB:264 A7CC:A7CD",
  "A7D0:A7D1 A7D6~A7DA:A7D7 A7DC:19B A7F5:A7F6 FF21-FF3A:FF41 10400-10427:10428",
  "104B0-104D3:104D8 10570-1057A:10597 1057C-1058A:105A3 1058C-10592:105B3 10594-10595:105BB",
  "10C80-10CB2:10CC0 10D50-10D65:10D70 118A0-118BF:118C0 16E40-16E5F:16E60 1E900-1E921:1E922"]

/-- The characters that are equal to others when case is ignored, each with the next of them;
the last goes back to the first. -/
def foldRuns : List String := [
  "41-5A:61 61-6A:41 6B:212A 6C-72:4C 73:17F 74-7A:54 B5:39C C0-D6:E0 D8-DE:F8 DF:1E9E E0-E4:C0",
  "E5:212B E6-F6:C6 F8-FE:D8 FF:178 100~12E:101 101~12F:100 132~136:133 133~137:132 139~147:13A",
  "13A~148:139 14A~176:14B 14B~177:14A 178:FF 179~17D:17A 17A~17E:179 17F:53 180:243 181:253",
  "182~184:183 183~185:182 186:254 187:188 188:187 189-18A:256 18B:18C 18C:18B 18E:1DD 18F:259",
  "190:25B 191:192 192:191 193:260 194:263 195:1F6 196:269 197:268 198:199 199:198 19A:23D",
  "19B:A7DC 19C:26F 19D:272 19E:220 19F:275 1A0~1A4:1A1 1A1~1A5:1A0 1A6:280 1A7:1A8 1A8:1A7",
  "1A9:283 1AC:1AD 1AD:1AC 1AE:288 1AF:1B0 1B0:1AF 1B1-1B2:28A 1B3~1B5:1B4 1B4~1B6:1B3 1B7:292",
  "1B8:1B9 1B9:1B8 1BC:1BD 1BD:1BC 1BF:1F7 1C4-1C5:1C5 1C6:1C4 1C7-1C8:1C8 1C9:1C7 1CA-1CB:1CB",
  "1CC:1CA 1CD~1DB:1CE 1CE~1DC:1CD 1DD:18E 1DE~1EE:1DF 1DF~1EF:1DE 1F1-1F2:1F2 1F3:1F1 1F4:1F5",
  "1F5:1F4 1F6:195 1F7:1BF 1F8~21E:1F9 1F9~21F:1F8 220:19E 222~232:223 223~233:222 23A:2C65",
  "23B:23C 23C:23B 23D:19A 23E:2C66 23F-240:2C7E 241:242 242:241 243:180 244:289 245:28C",
  "246~24E:247 247~24F:246 250:2C6F 251:2C6D 252:2C70 253:181 254:186 256-257:189 259:18F",
  "25B:190 25C:A7AB 260:193 261:A7AC 263:194 264:A7CB 265:A78D 266:A7AA 268:197 269:196",
  "26A:A7AE 26B:2C62 26C:A7AD 26F:19C 271:2C6E 272:19D 275:19F 27D:2C64 280:1A6 282:A7C5",
  "283:1A9 287:A7B1 288:1AE 289:244 28A-28B:1B1 28C:245 292:1B7 29D:A7B2 29E:A7B0 345:399",
  "370~372:371 371~373:370 376:377 377:376 37B-37D:3FD 37F:3F3 386:3AC 388-38A:3AD 38C:3CC",
  "38E-38F:3CD 390:1FD3 391-3A1:3B1 3A3:3C2 3A4-3AB:3C4 3AC:386 3AD-3AF:388 3B0:1FE3",
  "3B1~3B3:391 3B2:3D0 3B4~3B6:394 3B5:3F5 3B7:397 3B8:3D1 3B9:1FBE 3BA:3F0 3BB~3BF:39B 3BC:B5",
  "3BE:39E 3C0:3D6 3C1:3F1 3C2:3C3 3C3-3C5:3A3 3C6:3D5 3C7-3C8:3A7 3C9:2126 3CA-3CB:3AA 3CC:38C",
  "3CD-3CE:38E 3CF:3D7 3D0:392 3D1:3F4 3D5:3A6 3D6:3A0 3D7:3CF 3D8~3EE:3D9 3D9~3EF:3D8 3F0:39A",
  "3F1:3A1 3F2:3F9 3F3:37F 3F4:398 3F5:395 3F7:3F8 3F8:3F7 3F9:3F2 3FA:3FB 3FB:3FA 3FD-3FF:37B",
  "400-40F:450 410-42F:430 430-431:410 432:1C80 433~43F:413 434:1C81 436~43C:416 43E:1C82",
  "440:420 441-442:1C83 443-449:423 44A:1C86 44B-44F:42B 450-45F:400 460~480:461 461:460",
  "463:1C87 465~481:464 48A~4BE:48B 48B~4BF:48A 4C0:4CF 4C1~4CD:4C2 4C2~4CE:4C1 4CF:4C0",
  "4D0~52E:4D1 4D1~52F:4D0 531-556:561 561-586:531 10A0-10C5:2D00 10C7:2D27 10CD:2D2D",
  "10D0-10FA:1C90 10FD-10FF:1CBD 13A0-13EF:AB70 13F0-13F5:13F8 13F8-13FD:13F0 1C80:412 1C81:414",
  "1C82:41E 1C83:421 1C84:1C85 1C85:422 1C86:42A 1C87:462 1C88:A64A 1C89:1C8A 1C8A:1C89",
  "1C90-1CBA:10D0 1CBD-1CBF:10FD 1D79:A77D 1D7D:2C63 1D8E:A7C6 1E00~1E94:1E01 1E01~1E5F:1E00",
  "1E61:1E9B 1E63~1E95:1E62 1E9B:1E60 1E9E:DF 1EA0~1EFE:1EA1 1EA1~1EFF:1EA0 1F00-1F07:1F08",
  "1F08-1F0F:1F00 1F10-1F15:1F18 1F18-1F1D:1F10 1F20-1F27:1F28 1F28-1F2F:1F20 1F30-1F37:1F38",
  "1F38-1F3F:1F30 1F40-1F45:1F48 1F48-1F4D:1F40 1F51~1F57:1F59 1F59~1F5F:1F51 1F60-1F67:1F68",
  "1F68-1F6F:1F60 1F70-1F71:1FBA 1F72-1F75:1FC8 1F76-1F77:1FDA 1F78-1F79:1FF8 1F7A-1F7B:1FEA",
  "1F7C-1F7D:1FFA 1F80-1F87:1F88 1F88-1F8F:1F80 1F90-1F97:1F98 1F98-1F9F:1F90 1FA0-1FA7:1FA8",
  "1FA8-1FAF:1FA0 1FB0-1FB1:1FB8 1FB3:1FBC 1FB8-1FB9:1FB0 1FBA-1FBB:1F70 1FBC:1FB3 1FBE:345",
  "1FC3:1FCC 1FC8-1FCB:1F72 1FCC:1FC3 1FD0-1FD1:1FD8 1FD3:390 1FD8-1FD9:1FD0 1FDA-1FDB:1F76",
  "1FE0-1FE1:1FE8 1FE3:3B0 1FE5:1FEC 1FE8-1FE9:1FE0 1FEA-1FEB:1F7A 1FEC:1FE5 1FF3:1FFC",
  "1FF8-1FF9:1F78 1FFA-1FFB:1F7C 1FFC:1FF3 2126:3A9 212A:4B 212B:C5 2132:214E 214E:2132",
  "2160-216F:2170 2170-217F:2160 2183:2184 2184:2183 24B6-24CF:24D0 24D0-24E9:24B6",
  "2C00-2C2F:2C30 2C30-2C5F:2C00 2C60:2C61 2C61:2C60 2C62:26B 2C63:1D7D 2C64:27D 2C65:23A",
  "2C66:23E 2C67~2C6B:2C68 2C68~2C6C:2C67 2C6D:251 2C6E:271 2C6F:250 2C70:252 2C72:2C73",
  "2C73:2C72 2C75:2C76 2C76:2C75 2C7E-2C7F:23F 2C80~2CE2:2C81 2C81~2CE3:2C80 2CEB~2CED:2CEC",
  "2CEC~2CEE:2CEB 2CF2:2CF3 2CF3:2CF2 2D00-2D25:10A0 2D27:10C7 2D2D:10CD A640~A66C:A641",
  "A641~A649:A640 A64B:1C88 A64D~A66D:A64C A680~A69A:A681 A681~A69B:A680 A722~A72E:A723",
  "A723~A72F:A722 A732~A76E:A733 A733~A76F:A732 A779~A77B:A77A A77A~A77C:A779 A77D:1D79",
  "A77E~A786:A77F A77F~A787:A77E A78B:A78C A78C:A78B A78D:265 A790~A792:A791 A791~A793:A790",
  "A794:A7C4 A796~A7A8:A797 A797~A7A9:A796 A7AA:266 A7AB:25C A7AC:261 A7AD:26C A7AE:26A",
  "A7B0:29E A7B1:287 A7B2:29D A7B3:AB53 A7B4~A7C2:A7B5 A7B5~A7C3:A7B4 A7C4:A794 A7C5:282",
  "A7C6:1D8E A7C7~A7C9:A7C8 A7C8~A7CA:A7C7 A7CB:264 A7CC:A7CD A7CD:A7CC A7D0:A7D1 A7D1:A7D0",
  "A7D6~A7DA:A7D7 A7D7~A7DB:A7D6 A7DC:19B A7F5:A7F6 A7F6:A7F5 AB53:A7B3 AB70-ABBF:13A0",
  "FB05:FB06 FB06:FB05 FF21-FF3A:FF41 FF41-FF5A:FF21 10400-10427:10428 10428-1044F:10400",
  "104B0-104D3:104D8 104D8-104FB:104B0 10570-1057A:10597 1057C-1058A:105A3 1058C-10592:105B3",
  "10594-10595:105BB 10597-105A1:10570 105A3-105B1:1057C 105B3-105B9:1058C 105BB-105BC:10594",
  "10C80-10CB2:10CC0 10CC0-10CF2:10C80 10D50-10D65:10D70 10D70-10D85:10D50 118A0-118BF:118C0",
  "118C0-118DF:118A0 16E40-16E5F:16E60 16E60-16E7F:16E40 1E900-1E921:1E922 1E922-1E943:1E900"]

end Unicode
end GameJam
