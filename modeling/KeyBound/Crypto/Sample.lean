import KeyBound.Crypto.PrivateKey

/-!
# Sample keys

Two private keys that protect nothing, for trying things out. Either one signs.
-/

set_option autoImplicit false

namespace KeyBound.PrivateKey

def sampleCurve : PrivateKey where
  algorithm := .es256
  material := (Base64.decode? Base64.standard
    ("MIGHAgEAMBMGByqGSM49AgEGCCqGSM49AwEHBG0wawIBAQQgHru1gORlZuLcpbINn8CoXYXT8tEly5gt" ++
      "Xf/KMTkeJ3ehRANCAASyO5UxkSAgvPZxwHl7FjD0sAccOp9sB2Q1ZZFGmuXhJbtK6pf4OkwGvCX37EA3" ++
      "wP6vPuM+VE/ROe1r6ty7Rh+4").toList).getD []

def sampleRsa : PrivateKey where
  algorithm := .rs256
  material := (Base64.decode? Base64.standard
    ("MIIEowIBAAKCAQEA5cPo1xmpiHVFrq0XsPF0mjujr/cq4GSXad+OtpVsd84Jxc879Lpe2tBs6XcLPo9L" ++
      "E2uwwXGI9iWXAcgWLJXjvNfmRjYusm7gMzsT8bUEfEmlw9W7pmS1OrtOXwNTWf03G4bMCaOfWTDb11OP" ++
      "fbO0O+jQYRgqMr3k416QiWHfcP/LAr7eLexFyX3PZnPyaf5Otyj63ya2KNFK0FQzftrrSw7AXXDNcI8k" ++
      "F39LTEXpr7QTWNHKmz0bTyuGBFTnhECOF8teNPoyhNBBHAxyFtUa1nHUDJNxbDEpb4tCdyLQN1RTQaUz" ++
      "EZBFXa1KpST66tPgU6Q8pi2PGbRMwto1w2gJGwIDAQABAoIBAAOBDuKE7ix6GWN2GVfl/tDBWxg6bUl5" ++
      "z0NamPsY4UwcdNKy++eaFgtBRX/0BFRibBMyP8JbgGq8nQZ2bjwk1xHQux7UAbdP8JRncMDtcVGR7/jC" ++
      "IDgD7i2koKfbTaCgN4BweFknSS1bjObGS/hvTq7hOJhafX5DniOHlC28M+Otw51Wrt6bJmY24e5lIs0n" ++
      "pnehvnS9J7bT7N0C8PuP4wa0haDgoD3Y3SOH2iTF34bOdzONCLLIdV/ReboSyPzPGxk/H9tEY4/guuRO" ++
      "cQh7w0wDvO1z3DtMD6c46EZW2EHp9WM0q6dbvnYqRTD+spZVE5Iln1lEkAZiv1nPpCI+RYkCgYEA9iUs" ++
      "9rZXcuuFhxLnoETZid+cIlJQcUI57RxmL/N0R0uJg3ur1W0qIttd65R6Judb8eeM2f801cNaTzFKN9wk" ++
      "CaeVptXDOom+GSq5TNuYCbLTzkFSiZ3yDd9E5ApIAJKKqjE2J7EN3rNc0WOTWvPKpTPmmhLRriJ1jZdE" ++
      "GgTEIXMCgYEA7vbZsdy/NibEH4fou5hp5GbMujQPZdFMA/I4CU55097aDw+NGjaX2Y/i9koKb361nYhC" ++
      "su3z/0vS3hBA13Xi6YTFYLNKONdEKPU1mo6pFMgrrR/1TO+YoxxchlFrHU/0OoC7JoTn37WGTBwTE5lh" ++
      "G5Ahp3hcMB9jLzYW9HVpb7kCgYEAtDoQLCzi5wBQatCKzKzc47jY58CBqgwlwdmTcPS/ZRyH+b/p14Hw" ++
      "4kjhAgdbUXUBu6QhW9UjaIl7bJTYlQIZWQBd8SR/qDMHAAJqXz5CmodX0qO9vYnqnAGovZhRlCm4Ylla" ++
      "H8HiN/f4tFBGqsfqzv+rj5DL+sa8cAocETkAKsUCgYAvAeg5EM+ce2vBOB8UKBtMjtxfFLaitNVbQV68" ++
      "le9pOkFzDQAY0/xzE9b11ALRg/9+Cbv1LtH8upG0lUXsHIiSn0ekiiBjphUGaZYt3TptmCLfX5YFmGxS" ++
      "SdX5pjKIBZ5pk8E9BpAGddMBTdSC2n07ytKT+x1HaiU8uEszs5UWIQKBgB/5y226/X/PRD8yJbIdgjjK" ++
      "Sq9RZOMb6sZuwhdX8sQCHzFmIXSKGUL1jho1XWqwgNwytmcGOuLp/ba+hmL2pHyPtPhssm1FQnje9TlY" ++
      "UTkp3zDQwsmNBlv9Iljde8LquGf5lqvfPHr33jw61zy4vJhmIfTw9hprwoKglXBCgoaD").toList).getD []

end KeyBound.PrivateKey
